import ClassBridge.Diagnostic
import ClassBridge.Model.Basic
import ClassBridge.Text.Blank

/-!
# Lints

A lint looks at a whole model and reports what is wrong with it.  The built-in lints reject the
methods that the generated code could not carry across the boundary: those that return an object
whose destructor would never run, those that are const but have no object, and those with a
parameter that has the name of the receiver.

`check` is a function of the model alone.  A lint is also handed the findings made so far, but only
to append to them: lints are pure functions of the model, composed by concatenation, so what one of
them finds does not depend on what the others found, and that argument is left out.
-/

namespace ClassBridge

/-- A check of a whole model. -/
structure Lint where
  name : String
  description : String
  check : Model → List Diagnostic

namespace Lint

/-- The report of a lint about a method. -/
def methodError (lint message className method : String) : Diagnostic where
  severity := .error
  phase := "validate"
  lint := some lint
  message := message
  location := some (Diagnostic.methodLocation className method)

/-- What a lint reports that looks at each method of each class. -/
def overMethods (check : ClassModel → MethodModel → List Diagnostic) (model : Model) :
    List Diagnostic :=
  model.classes.flatMap fun c => c.methods.flatMap (check c)

/-- The class that a method returns by value, if its destructor is not trivial. -/
def unsafeReturn? (model : Model) (m : MethodModel) : Option String :=
  match m.returnType with
  | none => none
  | some type =>
    match model.class? (Text.trimmed type) with
    | none => none
    | some returned => if returned.dtor == .trivial then none else some type

/-- Rejects methods that return a class with a non-trivial destructor by value: the caller gets
the bytes of the object and no way to destroy it. -/
def nonTrivialReturn : Lint where
  name := "non-trivial-return"
  description := "Reject returning a class with a non-trivial destructor by value"
  check model := overMethods (fun c m =>
    match unsafeReturn? model m with
    | none => []
    | some type =>
      [methodError "non-trivial-return"
        ("C API does not allow to return non-trivially C++ type " ++ type) c.name m.name]) model

/-- Rejects methods that are both const and static. -/
def constStatic : Lint where
  name := "const-static"
  description := "Reject methods declared both const and static"
  check := overMethods fun c m =>
    if m.isConst && m.isStatic then
      [methodError "const-static" "a static method has no receiver and cannot be const"
        c.name m.name]
    else []

/-- The name of the receiver of a method function. -/
def receiverName : String := "self"

/-- Rejects parameters that have the name of the receiver. -/
def reservedParam : Lint where
  name := "reserved-param"
  description := "Reject parameters named like the method receiver"
  check := overMethods fun c m =>
    if m.isStatic then []
    else (m.params.filter fun p => p.name == receiverName).map fun p =>
      methodError "reserved-param"
        ("parameter '" ++ p.name ++ "' collides with the method receiver")
        c.name m.name

/-- The lints that every pipeline has unless told otherwise. -/
def builtin : List Lint := [nonTrivialReturn, constStatic, reservedParam]

/-- What lints report, one after the other. -/
def findings (lints : List Lint) (model : Model) : List Diagnostic :=
  lints.flatMap fun lint => lint.check model

end Lint

end ClassBridge
