import SwiftExpansion.Template.Kind

/-!
# Operators

The operators that kinds implement, with one description for all kinds. Making a value is among
them, as a function.
-/
namespace SwiftExpansion.Template

def operators : List Feature := [
  ⟨"__abs__", .operator, some "($self, /)", some "abs(self)"⟩,
  ⟨"__add__", .operator, some "($self, value, /)", some "Return self+value."⟩,
  ⟨"__and__", .operator, some "($self, value, /)", some "Return self&value."⟩,
  ⟨"__bool__", .operator, some "($self, /)", some "True if self else False"⟩,
  ⟨"__call__", .operator, some "($self, /, *args, **kwargs)", some "Call self as a function."⟩,
  ⟨"__contains__", .operator, some "($self, key, /)", some "Return key in self."⟩,
  ⟨"__delattr__", .operator, some "($self, name, /)", some "Implement delattr(self, name)."⟩,
  ⟨"__delete__", .operator, some "($self, instance, /)", some "Delete an attribute of instance."⟩,
  ⟨"__delitem__", .operator, some "($self, key, /)", some "Delete self[key]."⟩,
  ⟨"__divmod__", .operator, some "($self, value, /)", some "Return divmod(self, value)."⟩,
  ⟨"__eq__", .operator, some "($self, value, /)", some "Return self==value."⟩,
  ⟨"__float__", .operator, some "($self, /)", some "float(self)"⟩,
  ⟨"__floordiv__", .operator, some "($self, value, /)", some "Return self//value."⟩,
  ⟨"__ge__", .operator, some "($self, value, /)", some "Return self>=value."⟩,
  ⟨"__get__", .operator, some "($self, instance, owner=None, /)",
    some "Return an attribute of instance, which is of type owner."⟩,
  ⟨"__getattribute__", .operator, some "($self, name, /)", some "Return getattr(self, name)."⟩,
  ⟨"__getitem__", .operator, some "($self, key, /)", some "Return self[key]."⟩,
  ⟨"__gt__", .operator, some "($self, value, /)", some "Return self>value."⟩,
  ⟨"__hash__", .operator, some "($self, /)", some "Return hash(self)."⟩,
  ⟨"__iadd__", .operator, some "($self, value, /)", some "Implement self+=value."⟩,
  ⟨"__imul__", .operator, some "($self, value, /)", some "Implement self*=value."⟩,
  ⟨"__index__", .operator, some "($self, /)",
    some "Return self converted to an integer, if self is suitable for use as an index into a list."⟩,
  ⟨"__init__", .operator, some "($self, /, *args, **kwargs)",
    some "Initialize self.  See help(type(self)) for accurate signature."⟩,
  ⟨"__int__", .operator, some "($self, /)", some "int(self)"⟩,
  ⟨"__invert__", .operator, some "($self, /)", some "~self"⟩,
  ⟨"__ior__", .operator, some "($self, value, /)", some "Return self|=value."⟩,
  ⟨"__iter__", .operator, some "($self, /)", some "Implement iter(self)."⟩,
  ⟨"__le__", .operator, some "($self, value, /)", some "Return self<=value."⟩,
  ⟨"__len__", .operator, some "($self, /)", some "Return len(self)."⟩,
  ⟨"__lshift__", .operator, some "($self, value, /)", some "Return self<<value."⟩,
  ⟨"__lt__", .operator, some "($self, value, /)", some "Return self<value."⟩,
  ⟨"__mod__", .operator, some "($self, value, /)", some "Return self%value."⟩,
  ⟨"__mul__", .operator, some "($self, value, /)", some "Return self*value."⟩,
  ⟨"__ne__", .operator, some "($self, value, /)", some "Return self!=value."⟩,
  ⟨"__neg__", .operator, some "($self, /)", some "-self"⟩,
  ⟨"__new__", .function, some "($type, *args, **kwargs)",
    some "Create and return a new object.  See help(type) for accurate signature."⟩,
  ⟨"__or__", .operator, some "($self, value, /)", some "Return self|value."⟩,
  ⟨"__pos__", .operator, some "($self, /)", some "+self"⟩,
  ⟨"__pow__", .operator, some "($self, value, mod=None, /)", some "Return pow(self, value, mod)."⟩,
  ⟨"__radd__", .operator, some "($self, value, /)", some "Return value+self."⟩,
  ⟨"__rand__", .operator, some "($self, value, /)", some "Return value&self."⟩,
  ⟨"__rdivmod__", .operator, some "($self, value, /)", some "Return divmod(value, self)."⟩,
  ⟨"__repr__", .operator, some "($self, /)", some "Return repr(self)."⟩,
  ⟨"__rfloordiv__", .operator, some "($self, value, /)", some "Return value//self."⟩,
  ⟨"__rlshift__", .operator, some "($self, value, /)", some "Return value<<self."⟩,
  ⟨"__rmod__", .operator, some "($self, value, /)", some "Return value%self."⟩,
  ⟨"__rmul__", .operator, some "($self, value, /)", some "Return value*self."⟩,
  ⟨"__ror__", .operator, some "($self, value, /)", some "Return value|self."⟩,
  ⟨"__rpow__", .operator, some "($self, value, mod=None, /)", some "Return pow(value, self, mod)."⟩,
  ⟨"__rrshift__", .operator, some "($self, value, /)", some "Return value>>self."⟩,
  ⟨"__rshift__", .operator, some "($self, value, /)", some "Return self>>value."⟩,
  ⟨"__rsub__", .operator, some "($self, value, /)", some "Return value-self."⟩,
  ⟨"__rtruediv__", .operator, some "($self, value, /)", some "Return value/self."⟩,
  ⟨"__rxor__", .operator, some "($self, value, /)", some "Return value^self."⟩,
  ⟨"__set__", .operator, some "($self, instance, value, /)",
    some "Set an attribute of instance to value."⟩,
  ⟨"__setattr__", .operator, some "($self, name, value, /)",
    some "Implement setattr(self, name, value)."⟩,
  ⟨"__setitem__", .operator, some "($self, key, value, /)", some "Set self[key] to value."⟩,
  ⟨"__str__", .operator, some "($self, /)", some "Return str(self)."⟩,
  ⟨"__sub__", .operator, some "($self, value, /)", some "Return self-value."⟩,
  ⟨"__truediv__", .operator, some "($self, value, /)", some "Return self/value."⟩,
  ⟨"__xor__", .operator, some "($self, value, /)", some "Return self^value."⟩]

end SwiftExpansion.Template
