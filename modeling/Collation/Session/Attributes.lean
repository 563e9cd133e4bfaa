/-
The names under which a thing has something, beyond what can be called on
it by name: those of every thing, those of the things of a kind (which
operators and functions ask for), and those for a thing's own use.
-/
import Collation.Session.Members

namespace Collation.Session

/-- The names in a text, which blanks keep apart. -/
def words (text : String) : List String := text.splitOn " "

def everyThing : List String :=
  words <| "__class__ __delattr__ __dir__ __doc__ __eq__ __format__ __ge__ __getattribute__ "
    ++ "__getstate__ __gt__ __hash__ __init__ __init_subclass__ __le__ __lt__ __ne__ __new__ "
    ++ "__reduce__ __reduce_ex__ __repr__ __setattr__ __sizeof__ __str__ __subclasshook__"

/-- What is walked over, counted and searched. -/
def collection : List String :=
  words "__class_getitem__ __contains__ __iter__ __len__ __module__ __slots__"

def set : List String :=
  collection ++ words ("__and__ __or__ __rand__ __ror__ __rsub__ __rxor__ __sub__ __xor__ "
    ++ "_from_iterable _hash")

def mutableSet : List String := set ++ words "__iand__ __ior__ __isub__ __ixor__"

/-- What has a class of this library. -/
def instance_ : List String := words "__dict__ __module__ __weakref__"

/-- The further names of a thing. -/
def furtherNames : Thing → List String
  | .plain _ => []
  | .orderedSet _ =>
    mutableSet ++ instance_ ++ words "__reversed__ _comparator _sort_key _items _find"
  | .multimap _ =>
    instance_ ++ words ("__contains__ __getitem__ __len__ _key_comparator _value_comparator "
      ++ "_map _total _values_for")
  | .orderedMap _ =>
    collection ++ instance_ ++ words ("__delitem__ __getitem__ __reversed__ __setitem__ "
      ++ "_comparator _sort_key _slots _slot_key _find")
  | .registry _ => instance_ ++ words "__contains__ _by_name _by_comparator"
  | .comparator _ => words "__call__ __dict__ __module__"
  | .document _ =>
    instance_ ++ words ("__iter__ model_config model_copy model_dump_json model_fields "
      ++ "model_fields_set model_validate")
  | .slotView .. => mutableSet ++ instance_ ++ words "__reversed__ _multimap _key _delegate"
  | .view kind _ =>
    match kind with
    | .keySet => set ++ instance_ ++ words "__reversed__ _multimap"
    | .asMap =>
      collection ++ instance_ ++ words "__delitem__ __getitem__ __reversed__ _multimap"
    | .entries | .values => collection ++ instance_ ++ words "_multimap"
    | .viewItems | .mapKeys | .mapItems => set ++ words "_mapping"
    | .viewValues | .mapValues => collection ++ words "_mapping"

/-- Whether a thing has something under a name. -/
def hasName (t : Thing) (name : String) : Bool :=
  ((membersOf t).lookup name).isSome || everyThing.contains name
    || (furtherNames t).contains name

end Collation.Session
