/-!
# Device profiles

A profile fixes the output space of the virtual touchscreen: the largest coordinates, the length of the diagonal and the
number of contacts, each as the kernel takes it, in 32 bits with a sign.
-/
namespace Digitizer

/-- The parameters of a family of touchscreens. -/
structure Profile where
  /-- The name under which the virtual device appears. -/
  name : String
  maxX : Int32
  maxY : Int32
  diagonal : Int32
  maxContacts : Int32
  /-- The directory that holds the numbered buffer nodes. -/
  deviceDir : String
  deriving DecidableEq, Repr

namespace Profile

/-- The profile of the supported touchscreens. Its output space does not depend on the size of the panel. -/
def standard : Profile where
  name := "IPTS Touch"
  maxX := 9600
  maxY := 7200
  diagonal := 12000
  maxContacts := 16
  deviceDir := "/dev/ipts"

/-- The number of slots: contacts with an index below it can be reported. -/
def slots (p : Profile) : Nat := p.maxContacts.toNatClampNeg

end Profile

end Digitizer
