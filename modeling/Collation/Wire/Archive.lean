/-
Multimaps kept in files.
-/
import Collation.Files
import Collation.Wire.Decode
import Collation.Wire.Encode

namespace Collation.Multimap

/-- Writes a multimap to a file, making the directories above it. Nothing
is written of a multimap that cannot be encoded. -/
def dump (registry : Registry) (m : Multimap) (path : Path) (folder : Folder) :
    Outcome Folder Unit :=
  (folder.makeParents path).andThen fun folder _ =>
    let encoded := m.encode registry
    match encoded.result with
    | .error e => ⟨folder, .error e, encoded.events⟩
    | .ok octets =>
      match folder.write path octets with
      | .error e => ⟨folder, .error e, encoded.events⟩
      | .ok written =>
        ⟨written, .ok (), encoded.events ++ [.written m.total path.toText]⟩

/-- The multimap that a file holds. -/
def load (registry : Registry) (verify : Bool) (path : Path) (folder : Folder) :
    Outcome Unit Multimap :=
  match folder.read path with
  | .error e => .failed () e
  | .ok octets => decode registry verify (.bytes octets)

end Collation.Multimap
