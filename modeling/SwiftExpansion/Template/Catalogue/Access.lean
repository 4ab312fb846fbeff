import SwiftExpansion.Template.Kind

/-!
# The kinds of what kinds hold

The features of a kind have kinds of their own, as have methods and operators bound to a value and
kinds applied to an argument.
-/
namespace SwiftExpansion.Template.Kind

def method : Kind where
  name := "method_descriptor"
  measures := ⟨56, 0, 678272, 0, 0⟩
  operators := ["__repr__", "__call__", "__getattribute__", "__get__"]
  features := [
    ⟨"__reduce__", .method, none, none⟩,
    ⟨"__objclass__", .field, none, none⟩,
    ⟨"__name__", .field, none, none⟩,
    ⟨"__doc__", .attribute, none, none⟩,
    ⟨"__qualname__", .attribute, none, none⟩,
    ⟨"__text_signature__", .attribute, none, none⟩]

def operator : Kind where
  name := "wrapper_descriptor"
  measures := ⟨56, 0, 676224, 0, 0⟩
  operators := ["__repr__", "__call__", "__getattribute__", "__get__"]
  features := [
    ⟨"__reduce__", .method, none, none⟩,
    ⟨"__objclass__", .field, none, none⟩,
    ⟨"__name__", .field, none, none⟩,
    ⟨"__doc__", .attribute, none, none⟩,
    ⟨"__qualname__", .attribute, none, none⟩,
    ⟨"__text_signature__", .attribute, none, none⟩]

def property : Kind where
  name := "getset_descriptor"
  measures := ⟨48, 0, 545152, 0, 0⟩
  operators := ["__repr__", "__getattribute__", "__get__", "__set__", "__delete__"]
  features := [
    ⟨"__objclass__", .field, none, none⟩,
    ⟨"__name__", .field, none, none⟩,
    ⟨"__doc__", .attribute, none, none⟩,
    ⟨"__qualname__", .attribute, none, none⟩]

def field : Kind where
  name := "member_descriptor"
  measures := ⟨48, 0, 545152, 0, 0⟩
  operators := ["__repr__", "__getattribute__", "__get__", "__set__", "__delete__"]
  features := [
    ⟨"__reduce__", .method, none, none⟩,
    ⟨"__objclass__", .field, none, none⟩,
    ⟨"__name__", .field, none, none⟩,
    ⟨"__doc__", .attribute, none, none⟩,
    ⟨"__qualname__", .attribute, none, none⟩]

def classMethod : Kind where
  name := "classmethod_descriptor"
  measures := ⟨56, 0, 545152, 0, 0⟩
  operators := ["__repr__", "__call__", "__getattribute__", "__get__"]
  features := [
    ⟨"__objclass__", .field, none, none⟩,
    ⟨"__name__", .field, none, none⟩,
    ⟨"__doc__", .attribute, none, none⟩,
    ⟨"__qualname__", .attribute, none, none⟩,
    ⟨"__text_signature__", .attribute, none, none⟩]

def bound : Kind where
  name := "builtin_function_or_method"
  measures := ⟨56, 0, 547200, 40, 0⟩
  operators :=
    ["__repr__", "__hash__", "__call__", "__getattribute__", "__lt__", "__le__", "__eq__", "__ne__",
     "__gt__", "__ge__"]
  features := [
    ⟨"__reduce__", .method, none, none⟩,
    ⟨"__module__", .field, none, none⟩,
    ⟨"__doc__", .attribute, none, none⟩,
    ⟨"__name__", .attribute, none, none⟩,
    ⟨"__qualname__", .attribute, none, none⟩,
    ⟨"__self__", .attribute, none, none⟩,
    ⟨"__text_signature__", .attribute, none, none⟩]

def boundOperator : Kind where
  name := "method-wrapper"
  measures := ⟨32, 0, 545152, 0, 0⟩
  operators :=
    ["__repr__", "__hash__", "__call__", "__getattribute__", "__lt__", "__le__", "__eq__", "__ne__",
     "__gt__", "__ge__"]
  features := [
    ⟨"__reduce__", .method, none, none⟩,
    ⟨"__self__", .field, none, none⟩,
    ⟨"__objclass__", .attribute, none, none⟩,
    ⟨"__name__", .attribute, none, none⟩,
    ⟨"__qualname__", .attribute, none, none⟩,
    ⟨"__doc__", .attribute, none, none⟩,
    ⟨"__text_signature__", .attribute, none, none⟩]

/-- Kinds applied to an argument. -/
def applied : Kind where
  name := "GenericAlias"
  home := "types"
  summary := lines ["Represent a PEP 585 generic type", "",
    "E.g. for t = list[int], t.__origin__ is list and t.__args__ is (int,)."]
  measures := ⟨64, 0, 548096, 40, 0⟩
  operators :=
    ["__new__", "__repr__", "__hash__", "__call__", "__getattribute__", "__lt__", "__le__",
     "__eq__", "__ne__", "__gt__", "__ge__", "__iter__", "__or__", "__ror__", "__getitem__"]
  features := [
    ⟨"__mro_entries__", .method, none, none⟩,
    ⟨"__instancecheck__", .method, none, none⟩,
    ⟨"__subclasscheck__", .method, none, none⟩,
    ⟨"__reduce__", .method, none, none⟩,
    ⟨"__dir__", .method, none, none⟩,
    ⟨"__origin__", .field, none, none⟩,
    ⟨"__args__", .field, none, none⟩,
    ⟨"__unpacked__", .field, none, none⟩,
    ⟨"__parameters__", .attribute, none, some "Type variables in the GenericAlias."⟩,
    ⟨"__typing_unpacked_tuple_args__", .attribute, none, none⟩]

end SwiftExpansion.Template.Kind
