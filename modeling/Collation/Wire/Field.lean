/-
Checking the fields of a record read from a wire. A check tells everything
that is wrong, not only the first thing: the faults of all fields in the
order in which the record declares them, then the names that it does not
know in the order in which they came.
-/
import Collation.Text.Encoding
import Collation.Value.Lookup

namespace Collation.Wire

/-- What a checked part means, or all that is wrong with it. -/
abbrev Checked (α : Type) := Except (List FieldFault) α

/-- A single fault of the part itself. -/
def refuse {α : Type} (cause : FieldCause) : Checked α := .error [⟨[], cause⟩]

namespace Checked

variable {α : Type}

def faults : Checked α → List FieldFault
  | .ok _ => []
  | .error fs => fs

/-- The same check, of a part that stands under a name. -/
def under (name : String) (c : Checked α) : Checked α :=
  match c with
  | .ok a => .ok a
  | .error fs => .error (fs.map fun f => ⟨name :: f.place, f.cause⟩)

end Checked

-- ============================================================== checks

/-- An integer proper, not less than `least`. -/
def integer (least : Int) : Value → Checked Int
  | .int n => if n < least then refuse (.tooSmall least) else .ok n
  | _ => refuse .notAnInteger

/-- A text of either kind, or octets that spell one. -/
def string : Value → Checked Text
  | .text s | .label s => .ok s
  | .bytes octets =>
    match Text.decodeUtf8 octets with
    | .ok text => .ok text
    | .error _ => refuse .notUnicode
  | _ => refuse .notAString

/-- A list, or another collection that is neither a text nor a dictionary. -/
def listed : Value → Checked (List Value)
  | .list xs | .tuple xs | .set xs | .iterator _ xs => .ok xs
  | _ => refuse .notAList

/-- Each element checked, under its index. -/
def each {α : Type} (check : Value → Checked α) : (index : Nat) → List Value →
    Checked (List α)
  | _, [] => .ok []
  | index, x :: xs =>
    match (check x).under (toString index), each check (index + 1) xs with
    | .ok a, .ok as => .ok (a :: as)
    | first, rest => .error (first.faults ++ rest.faults)

-- ============================================================== fields

variable {α : Type}

/-- A field that must be there. -/
def required (entries : List (Value × Value)) (name : String) (check : Value → Checked α) :
    Checked α :=
  Checked.under name <|
    match Value.lookup (.text name) entries with
    | some v => check v
    | none => refuse .missing

/-- A field that has a value of its own where it is left out. -/
def optional (entries : List (Value × Value)) (name : String) (absent : α)
    (check : Value → Checked α) : Checked α :=
  Checked.under name <|
    match Value.lookup (.text name) entries with
    | some v => check v
    | none => .ok absent

/-- How a name that is no text shows in the place of a fault: a truth value
as the number that it equals. -/
def placeName : Value → String
  | .bool b => toString b.toNat
  | v => v.display

/-- The faults of the names that are not among those known. -/
def unknownNames (known : List String) (entries : List (Value × Value)) : List FieldFault :=
  entries.filterMap fun e =>
    match e.1.text? with
    | some name =>
      if known.any fun field => name = field then none else some ⟨[name.lossy], .unknownField⟩
    | none => some ⟨[placeName e.1], .notAName⟩

end Collation.Wire
