import Digitizer.Files.Basic

/-!
# File systems that are written down

A stand-in for the file system: listings of some directories and texts of some files, all by their full paths.
-/
namespace Digitizer

/-- The file system that has the given directories, in the order of their listings, and the given files. -/
def FileSystem.ofTexts (listings : List (String × List String)) (texts : List (String × String)) : FileSystem where
  openPath path :=
    match texts.lookup path with
    | some text => .ok (.file text.toUTF8.data.toList)
    | none => .error Errno.notFound
  list directory :=
    match listings.lookup directory with
    | some names => .ok names
    | none => .error Errno.notFound
  isFile path := (texts.lookup path).isSome

theorem FileSystem.openPath_ofTexts {listings : List (String × List String)} {texts : List (String × String)}
    {path text : String} (h : texts.lookup path = some text) :
    (ofTexts listings texts).openPath path = .ok (.file text.toUTF8.data.toList) := by
  simp only [ofTexts, h]

theorem FileSystem.openPath_ofTexts_of_none {listings : List (String × List String)} {texts : List (String × String)}
    {path : String} (h : texts.lookup path = none) : (ofTexts listings texts).openPath path = .error Errno.notFound := by
  simp only [ofTexts, h]

theorem FileSystem.readText_ofTexts {listings : List (String × List String)} {texts : List (String × String)}
    {path text : String} (h : texts.lookup path = some text) : (ofTexts listings texts).readText path = .ok text := by
  have hbytes : text.toUTF8.data.toList.toByteArray = text.toUTF8 := ByteArray.ext (by simp [List.data_toByteArray])
  have htext : String.fromUTF8? text.toUTF8 = some text := dif_pos text.isValidUTF8
  simp only [readText, openPath_ofTexts h, hbytes, htext]

end Digitizer
