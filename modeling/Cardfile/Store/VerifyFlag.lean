import Cardfile.Text.Blank

/-!
# Lists of verify flags

A store URL may list flags that say how a certificate is verified. A word of such a list names a
flag, or anything else that a flag or the set of all flags can be asked for: what a whole number
has, what keeps the set, and what every object has.
-/

set_option autoImplicit false
set_option relaxedAutoImplicit false

namespace Cardfile.VerifyFlag

open Text

def flagNames : List String :=
  ["VERIFY_DEFAULT", "VERIFY_CRL_CHECK_LEAF", "VERIFY_CRL_CHECK_CHAIN", "VERIFY_X509_STRICT",
    "VERIFY_ALLOW_PROXY_CERTS", "VERIFY_X509_TRUSTED_FIRST", "VERIFY_X509_PARTIAL_CHAIN"]

/-- What a flag has as a whole number. -/
def numberNames : List String :=
  ["as_integer_ratio", "bit_count", "bit_length", "conjugate", "denominator", "from_bytes",
    "imag", "mro", "numerator", "real", "to_bytes"]

/-- What keeps the set of flags. -/
def setNames : List String :=
  ["_all_bits_", "_boundary_", "_check_for_existing_members_", "_convert_", "_create_",
    "_find_data_repr_", "_find_data_type_", "_find_new_", "_flag_mask_", "_generate_next_value_",
    "_get_mixins_", "_get_value", "_inverted_", "_iter_member_", "_iter_member_by_def_",
    "_iter_member_by_value_", "_member_map_", "_member_names_", "_member_type_", "_missing_",
    "_new_member_", "_numeric_repr_", "_singles_mask_", "_unhashable_values_", "_use_args_",
    "_value2member_map_", "_value_repr_"]

/-- What belongs to every object, to numbers with operators, and to sets. -/
def specialNames : List String :=
  ["__abs__", "__add__", "__and__", "__annotations__", "__base__", "__bases__", "__basicsize__",
    "__bool__", "__call__", "__ceil__", "__class__", "__contains__", "__copy__", "__deepcopy__",
    "__delattr__", "__dict__", "__dictoffset__", "__dir__", "__divmod__", "__doc__", "__eq__",
    "__flags__", "__float__", "__floor__", "__floordiv__", "__format__", "__ge__", "__getattr__",
    "__getattribute__", "__getitem__", "__getnewargs__", "__getstate__", "__gt__", "__hash__",
    "__index__", "__init__", "__init_subclass__", "__instancecheck__", "__int__", "__invert__",
    "__itemsize__", "__iter__", "__le__", "__len__", "__lshift__", "__lt__", "__members__",
    "__mod__", "__module__", "__mro__", "__mul__", "__name__", "__ne__", "__neg__", "__new__",
    "__or__", "__pos__", "__pow__", "__prepare__", "__qualname__", "__radd__", "__rand__",
    "__rdivmod__", "__reduce__", "__reduce_ex__", "__repr__", "__reversed__", "__rfloordiv__",
    "__rlshift__", "__rmod__", "__rmul__", "__ror__", "__round__", "__rpow__", "__rrshift__",
    "__rshift__", "__rsub__", "__rtruediv__", "__rxor__", "__setattr__", "__sizeof__", "__str__",
    "__sub__", "__subclasscheck__", "__subclasses__", "__subclasshook__", "__text_signature__",
    "__truediv__", "__trunc__", "__weakref__", "__weakrefoffset__", "__xor__"]

def isName (word : String) : Bool :=
  flagNames.contains word || numberNames.contains word || setNames.contains word ||
    specialNames.contains word

/-- Names divided by commas; brackets do not count. -/
def isList (text : String) : Bool :=
  let plain := text.toList.filter fun c ↦ c != '[' && c != ']'
  (plain.splitOn ',').all fun word ↦ isName (String.ofList (trim word))

end Cardfile.VerifyFlag
