import Digitizer.Detector

/-!
# A detector that follows a script
-/
namespace Digitizer

/-- What to answer to a number of detections in a row. -/
structure ScriptedDetection where
  contacts : List Contact := []
  failure : Option String := none
  /-- How many further detections get this answer. -/
  more : Nat := 0

/-- A detector that gives scripted answers, and finds nothing after them. -/
structure ScriptedDetector where
  script : List ScriptedDetection := []

/-- Give the answer at the front of the script. -/
def ScriptedDetector.detect (d : ScriptedDetector) (_ : Bytes) (contacts : List Contact) :
    Detection ScriptedDetector :=
  match d.script with
  | [] => ⟨contacts, none, d⟩
  | item :: rest =>
    let script := match item.more with
      | 0 => rest
      | more + 1 => { item with more } :: rest
    ⟨contacts ++ item.contacts, item.failure, ⟨script⟩⟩

instance : Detector ScriptedDetector := ⟨ScriptedDetector.detect⟩

end Digitizer
