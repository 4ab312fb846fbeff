import SwiftExpansion.Template.Kind

/-!
# The kinds that all others rest on

The root of all kinds, the kind of kinds, and the kind of null.
-/
namespace SwiftExpansion.Template.Kind

/-- What every kind descends from. -/
def root : Kind where
  name := "object"
  ancestors := []
  signature := some "()"
  summary := lines ["The base class of the class hierarchy.", "",
    "When called, it accepts no arguments and returns a new featureless",
    "instance that has no instance attributes and cannot be given any.", ""]
  measures := ⟨16, 0, 529664, 0, 0⟩
  operators :=
    ["__new__", "__repr__", "__hash__", "__str__", "__getattribute__", "__setattr__", "__delattr__",
     "__lt__", "__le__", "__eq__", "__ne__", "__gt__", "__ge__", "__init__"]
  features := [
    ⟨"__reduce_ex__", .method, some "($self, protocol, /)", some "Helper for pickle."⟩,
    ⟨"__reduce__", .method, some "($self, /)", some "Helper for pickle."⟩,
    ⟨"__getstate__", .method, some "($self, /)", some "Helper for pickle."⟩,
    ⟨"__subclasshook__", .classMethod, none,
      lines ["Abstract classes can override this to customize issubclass().", "",
        "This is invoked early on by abc.ABCMeta.__subclasscheck__().",
        "It should return True, False or NotImplemented.  If it returns",
        "NotImplemented, the normal algorithm is used.  Otherwise, it",
        "overrides the normal algorithm (and the outcome is cached).", ""]⟩,
    ⟨"__init_subclass__", .classMethod, none,
      lines ["This method is called when a class is subclassed.", "",
        "The default implementation does nothing. It may be", "overridden to extend subclasses.",
        ""]⟩,
    ⟨"__format__", .method, some "($self, format_spec, /)", some "Default object formatter."⟩,
    ⟨"__sizeof__", .method, some "($self, /)", some "Size of object in memory, in bytes."⟩,
    ⟨"__dir__", .method, some "($self, /)", some "Default dir() implementation."⟩,
    ⟨"__class__", .attribute, none, some "the object's class"⟩]

def kind : Kind where
  name := "type"
  summary := lines ["type(object) -> the object's type",
    "type(name, bases, dict, **kwds) -> a new type"]
  measures := ⟨904, 40, 2148031744, 368, 264⟩
  isGeneric := true
  operators :=
    ["__new__", "__repr__", "__call__", "__getattribute__", "__setattr__", "__delattr__",
     "__init__", "__or__", "__ror__"]
  features := [
    ⟨"mro", .method, some "($self, /)", some "Return a type's method resolution order."⟩,
    ⟨"__subclasses__", .method, some "($self, /)", some "Return a list of immediate subclasses."⟩,
    ⟨"__prepare__", .classMethod, none,
      lines ["__prepare__() -> dict", "used to create the namespace for the class statement"]⟩,
    ⟨"__instancecheck__", .method, some "($self, instance, /)",
      some "Check if an object is an instance."⟩,
    ⟨"__subclasscheck__", .method, some "($self, subclass, /)",
      some "Check if a class is a subclass."⟩,
    ⟨"__dir__", .method, some "($self, /)", some "Specialized __dir__ implementation for types."⟩,
    ⟨"__sizeof__", .method, some "($self, /)",
      some "Return memory consumption of the type object."⟩,
    ⟨"__basicsize__", .field, none, none⟩,
    ⟨"__itemsize__", .field, none, none⟩,
    ⟨"__flags__", .field, none, none⟩,
    ⟨"__weakrefoffset__", .field, none, none⟩,
    ⟨"__base__", .field, none, none⟩,
    ⟨"__dictoffset__", .field, none, none⟩,
    ⟨"__mro__", .field, none, none⟩,
    ⟨"__name__", .attribute, none, none⟩,
    ⟨"__qualname__", .attribute, none, none⟩,
    ⟨"__bases__", .attribute, none, none⟩,
    ⟨"__module__", .attribute, none, none⟩,
    ⟨"__abstractmethods__", .attribute, none, none⟩,
    ⟨"__dict__", .attribute, none, none⟩,
    ⟨"__doc__", .attribute, none, none⟩,
    ⟨"__text_signature__", .attribute, none, none⟩,
    ⟨"__annotations__", .attribute, none, none⟩]

def null : Kind where
  name := "NoneType"
  measures := ⟨16, 0, 528640, 0, 0⟩
  operators := ["__new__", "__repr__", "__bool__"]
  features := []

end SwiftExpansion.Template.Kind
