import ClassBridge.Model.Basic

/-!
# The exported C functions

`ClassModel.abi` lists the C functions of a class, in the order in which every artifact has them:
the lifecycle functions that the class asks for, then one function for each method.  The artifacts
never look at the lifecycle flags on their own to decide which functions there are.
-/

namespace ClassBridge

/-- What an exported function does. -/
inductive AbiOp where
  | init
  | new
  | destroy
  | clone
  | assign
  | move
  | equals
  | cmp
  | method (name : String)
  deriving DecidableEq, Repr

/-- The end of a symbol, after the prefix and the class. -/
def AbiOp.suffix : AbiOp → String
  | .init => "init"
  | .new => "new"
  | .destroy => "destroy"
  | .clone => "clone"
  | .assign => "assign"
  | .move => "move"
  | .equals => "equals"
  | .cmp => "cmp"
  | .method name => name

/-- A parameter of an exported function. -/
structure AbiParam where
  name : String
  type : String
  /-- Whether the parameter is an object of the class itself. -/
  isReceiver : Bool
  deriving DecidableEq, Repr

/-- An exported C function. -/
structure AbiFunction where
  op : AbiOp
  symbol : String
  returnType : Option String
  params : List AbiParam
  deriving DecidableEq, Repr

namespace AbiFunction

/-- The C type of the result. -/
def cReturn (f : AbiFunction) : String := f.returnType.getD "void"

/-- The prototype, without the semicolon that ends a declaration. -/
def prototype (f : AbiFunction) : String :=
  f.cReturn ++ " " ++ f.symbol ++ "("
    ++ String.intercalate ", " (f.params.map fun p => p.type ++ " " ++ p.name) ++ ")"

/-- The method behind the function, if there is one. -/
def methodName? (f : AbiFunction) : Option String :=
  match f.op with
  | .method name => some name
  | _ => none

end AbiFunction

namespace ClassModel

/-- The type of a pointer to an object. -/
def pointer (c : ClassModel) : String := c.name ++ "*"

/-- The type of a pointer to an object that is not changed. -/
def constPointer (c : ClassModel) : String := c.name ++ " const*"

/-- The symbol of an operation. -/
def symbolOf (c : ClassModel) (symbolPrefix : String) (op : AbiOp) : String :=
  symbolPrefix ++ "_" ++ c.name ++ "_" ++ op.suffix

/-- A function on objects of the class. -/
def lifecycleFunction (c : ClassModel) (symbolPrefix : String) (op : AbiOp)
    (returnType : Option String) (receivers : List (String × String)) : AbiFunction where
  op
  symbol := c.symbolOf symbolPrefix op
  returnType
  params := receivers.map fun (name, type) => { name, type, isReceiver := true }

/-- The function that constructs objects: a managed object is made on the heap of its host, any
other one in the memory that the caller provides. -/
def constructor? (c : ClassModel) (symbolPrefix : String) : Option AbiFunction :=
  if c.managedObject then
    if c.managedObjectDefaultCtor then
      some (c.lifecycleFunction symbolPrefix .new (some c.pointer) [])
    else none
  else if c.defaultCtor == .generated then
    some (c.lifecycleFunction symbolPrefix .init none [("self", c.pointer)])
  else none

/-- A function that is there under a condition. -/
def provided (condition : Bool) (f : AbiFunction) : List AbiFunction :=
  if condition then [f] else []

/-- The lifecycle functions of a class. -/
def lifecycleFunctions (c : ClassModel) (symbolPrefix : String) : List AbiFunction :=
  let function := c.lifecycleFunction symbolPrefix
  (c.constructor? symbolPrefix).toList
    ++ provided c.generateDtor (function .destroy none [("self", c.pointer)])
    ++ provided (c.copyCtor == .generated)
      (function .clone none [("self", c.constPointer), ("new_", c.pointer)])
    ++ provided (c.copyAssign == .generated)
      (function .assign none [("self", c.pointer), ("other", c.constPointer)])
    ++ provided c.movable (function .move none [("self", c.pointer), ("dest", c.pointer)])
    ++ provided c.eq
      (function .equals (some "bool") [("self", c.constPointer), ("other", c.constPointer)])
    ++ provided c.ord
      (function .cmp (some "signed char") [("self", c.constPointer), ("other", c.constPointer)])

/-- The receiver of a method; a static method has none. -/
def receiver (c : ClassModel) (m : MethodModel) : List AbiParam :=
  if m.isStatic then []
  else [{ name := "self", type := if m.isConst then c.constPointer else c.pointer,
          isReceiver := true }]

/-- The function of a method. -/
def methodFunction (c : ClassModel) (symbolPrefix : String) (m : MethodModel) : AbiFunction where
  op := .method m.name
  symbol := c.symbolOf symbolPrefix (.method m.name)
  returnType := m.returnType
  params := c.receiver m
    ++ m.params.map fun p => { name := p.name, type := p.type, isReceiver := false }

/-- The exported functions of a class. -/
def abi (c : ClassModel) (symbolPrefix : String) : List AbiFunction :=
  c.lifecycleFunctions symbolPrefix ++ c.methods.map (c.methodFunction symbolPrefix)

end ClassModel

/-- The symbol of the first function that performs an operation. -/
def symbolFor? (abi : List AbiFunction) (op : AbiOp) : Option String :=
  (abi.find? fun f => f.op == op).map (·.symbol)

end ClassBridge
