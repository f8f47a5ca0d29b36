import Digitizer.Journal

/-!
# Detection

A detector turns the bytes of a frame into contacts. It adds them to a list and may then fail all the same.
-/
namespace Digitizer

/-- The outcome of a detection. -/
structure Detection (δ : Type) where
  /-- The list of contacts afterwards. -/
  contacts : List Contact
  /-- Why the detection failed, if it did. -/
  failure : Option String
  /-- The detector afterwards. -/
  detector : δ

/-- The list of contacts, or the reason of the failure. -/
def Detection.outcome {δ : Type} (d : Detection δ) : Except String (List Contact) :=
  match d.failure with
  | none => .ok d.contacts
  | some reason => .error reason

/-- The states `δ` of a detector. -/
class Detector (δ : Type) where
  /-- Detect the contacts of a frame and add them to a list. -/
  detect : δ → Bytes → List Contact → Detection δ

/-- A detector that never finds anything. -/
structure BlindDetector where
  deriving DecidableEq, Repr

instance : Detector BlindDetector := ⟨fun d _ contacts => ⟨contacts, none, d⟩⟩

end Digitizer
