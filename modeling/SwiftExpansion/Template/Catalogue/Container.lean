import SwiftExpansion.Template.Kind

/-!
# The kinds of containers

Lists and objects of documents, tuples of what placeholders reach, and the contents of a kind.
-/
namespace SwiftExpansion.Template.Kind

def list : Kind where
  name := "list"
  signature := some "(iterable=(), /)"
  summary := lines ["Built-in mutable sequence.", "",
    "If no argument is given, the constructor creates a new empty list.",
    "The argument must be an iterable if specified."]
  measures := ⟨40, 0, 38294816, 0, 0⟩
  isGeneric := true
  nulls := ["__hash__"]
  operators :=
    ["__new__", "__repr__", "__getattribute__", "__lt__", "__le__", "__eq__", "__ne__", "__gt__",
     "__ge__", "__iter__", "__init__", "__len__", "__setitem__", "__delitem__", "__add__",
     "__mul__", "__rmul__", "__contains__", "__iadd__", "__imul__"]
  features := [
    ⟨"__getitem__", .method, none, some "x.__getitem__(y) <==> x[y]"⟩,
    ⟨"__reversed__", .method, some "($self, /)", some "Return a reverse iterator over the list."⟩,
    ⟨"__sizeof__", .method, some "($self, /)",
      some "Return the size of the list in memory, in bytes."⟩,
    ⟨"clear", .method, some "($self, /)", some "Remove all items from list."⟩,
    ⟨"copy", .method, some "($self, /)", some "Return a shallow copy of the list."⟩,
    ⟨"append", .method, some "($self, object, /)", some "Append object to the end of the list."⟩,
    ⟨"insert", .method, some "($self, index, object, /)", some "Insert object before index."⟩,
    ⟨"extend", .method, some "($self, iterable, /)",
      some "Extend list by appending elements from the iterable."⟩,
    ⟨"pop", .method, some "($self, index=-1, /)",
      lines ["Remove and return item at index (default last).", "",
        "Raises IndexError if list is empty or index is out of range."]⟩,
    ⟨"remove", .method, some "($self, value, /)",
      lines ["Remove first occurrence of value.", "",
        "Raises ValueError if the value is not present."]⟩,
    ⟨"index", .method, some "($self, value, start=0, stop=sys.maxsize, /)",
      lines ["Return first index of value.", "", "Raises ValueError if the value is not present."]⟩,
    ⟨"count", .method, some "($self, value, /)", some "Return number of occurrences of value."⟩,
    ⟨"reverse", .method, some "($self, /)", some "Reverse *IN PLACE*."⟩,
    ⟨"sort", .method, some "($self, /, *, key=None, reverse=False)",
      lines ["Sort the list in ascending order and return None.", "",
        "The sort is in-place (i.e. the list itself is modified) and stable (i.e. the",
        "order of two equal elements is maintained).", "",
        "If a key function is given, apply it once to each list item and sort them,",
        "ascending or descending, according to their function values.", "",
        "The reverse flag can be set to sort in descending order."]⟩,
    ⟨"__class_getitem__", .classMethod, none, some "See PEP 585"⟩]

def object : Kind where
  name := "dict"
  summary := lines ["dict() -> new empty dictionary",
    "dict(mapping) -> new dictionary initialized from a mapping object's",
    "    (key, value) pairs", "dict(iterable) -> new dictionary initialized as if via:",
    "    d = \x7b\x7d", "    for k, v in iterable:", "        d[k] = v",
    "dict(**kwargs) -> new dictionary initialized with the name=value pairs",
    "    in the keyword argument list.  For example:  dict(one=1, two=2)"]
  measures := ⟨48, 0, 541611328, 0, 0⟩
  isGeneric := true
  nulls := ["__hash__"]
  operators :=
    ["__new__", "__repr__", "__getattribute__", "__lt__", "__le__", "__eq__", "__ne__", "__gt__",
     "__ge__", "__iter__", "__init__", "__or__", "__ror__", "__ior__", "__len__", "__setitem__",
     "__delitem__"]
  features := [
    ⟨"__getitem__", .method, none, some "x.__getitem__(y) <==> x[y]"⟩,
    ⟨"__contains__", .method, some "($self, key, /)",
      some "True if the dictionary has the specified key, else False."⟩,
    ⟨"__sizeof__", .method, none, some "D.__sizeof__() -> size of D in memory, in bytes"⟩,
    ⟨"get", .method, some "($self, key, default=None, /)",
      some "Return the value for key if key is in the dictionary, else default."⟩,
    ⟨"setdefault", .method, some "($self, key, default=None, /)",
      lines ["Insert key with a value of default if key is not in the dictionary.", "",
        "Return the value for key if key is in the dictionary, else default."]⟩,
    ⟨"pop", .method, some "($self, key, default=<unrepresentable>, /)",
      lines ["D.pop(k[,d]) -> v, remove specified key and return the corresponding value.", "",
        "If the key is not found, return the default if given; otherwise,", "raise a KeyError."]⟩,
    ⟨"popitem", .method, some "($self, /)",
      lines ["Remove and return a (key, value) pair as a 2-tuple.", "",
        "Pairs are returned in LIFO (last-in, first-out) order.",
        "Raises KeyError if the dict is empty."]⟩,
    ⟨"keys", .method, none, some "D.keys() -> a set-like object providing a view on D's keys"⟩,
    ⟨"items", .method, none, some "D.items() -> a set-like object providing a view on D's items"⟩,
    ⟨"values", .method, none, some "D.values() -> an object providing a view on D's values"⟩,
    ⟨"update", .method, none,
      lines ["D.update([E, ]**F) -> None.  Update D from dict/iterable E and F.",
        "If E is present and has a .keys() method, then does:  for k in E: D[k] = E[k]",
        "If E is present and lacks a .keys() method, then does:  for k, v in E: D[k] = v",
        "In either case, this is followed by: for k in F:  D[k] = F[k]"]⟩,
    ⟨"fromkeys", .classMethod, some "($type, iterable, value=None, /)",
      some "Create a new dictionary with keys from iterable and values set to value."⟩,
    ⟨"clear", .method, none, some "D.clear() -> None.  Remove all items from D."⟩,
    ⟨"copy", .method, none, some "D.copy() -> a shallow copy of D"⟩,
    ⟨"__reversed__", .method, some "($self, /)",
      some "Return a reverse iterator over the dict keys."⟩,
    ⟨"__class_getitem__", .classMethod, none, some "See PEP 585"⟩]

def tuple : Kind where
  name := "tuple"
  signature := some "(iterable=(), /)"
  summary := lines ["Built-in immutable sequence.", "",
    "If no argument is given, the constructor returns an empty tuple.",
    "If iterable is specified the tuple is initialized from iterable's items.", "",
    "If the argument is a tuple, the return value is the same object."]
  measures := ⟨24, 8, 71849248, 0, 0⟩
  isGeneric := true
  operators :=
    ["__new__", "__repr__", "__hash__", "__getattribute__", "__lt__", "__le__", "__eq__", "__ne__",
     "__gt__", "__ge__", "__iter__", "__len__", "__getitem__", "__add__", "__mul__", "__rmul__",
     "__contains__"]
  features := [
    ⟨"__getnewargs__", .method, some "($self, /)", none⟩,
    ⟨"index", .method, some "($self, value, start=0, stop=sys.maxsize, /)",
      lines ["Return first index of value.", "", "Raises ValueError if the value is not present."]⟩,
    ⟨"count", .method, some "($self, value, /)", some "Return number of occurrences of value."⟩,
    ⟨"__class_getitem__", .classMethod, none, some "See PEP 585"⟩]

/-- What a kind holds under its names. -/
def contents : Kind where
  name := "mappingproxy"
  measures := ⟨24, 0, 545088, 0, 0⟩
  isGeneric := true
  nulls := ["__hash__"]
  operators :=
    ["__new__", "__repr__", "__str__", "__getattribute__", "__lt__", "__le__", "__eq__", "__ne__",
     "__gt__", "__ge__", "__iter__", "__or__", "__ror__", "__ior__", "__len__", "__getitem__",
     "__contains__"]
  features := [
    ⟨"get", .method, none, some "D.get(k[,d]) -> D[k] if k in D, else d.  d defaults to None."⟩,
    ⟨"keys", .method, none, some "D.keys() -> a set-like object providing a view on D's keys"⟩,
    ⟨"values", .method, none, some "D.values() -> an object providing a view on D's values"⟩,
    ⟨"items", .method, none, some "D.items() -> a set-like object providing a view on D's items"⟩,
    ⟨"copy", .method, none, some "D.copy() -> a shallow copy of D"⟩,
    ⟨"__class_getitem__", .classMethod, none, some "See PEP 585"⟩,
    ⟨"__reversed__", .method, none, some "D.__reversed__() -> reverse iterator"⟩]

end SwiftExpansion.Template.Kind
