import ClassBridge.Model.Basic
import ClassBridge.Sheet

/-!
# Lines that artifacts share

Braces, the banner at the top of every generated file, and the names that several artifacts spell
in the same way.
-/

namespace ClassBridge.Artifact

/-- The comment at the top of every generated file. -/
def banner : Script := .comment "GENERATED -- DO NOT EDIT!!"

/-- A header with a body between braces. -/
def braced (header : String) (body : Script) : Script := .block (header ++ " \x7b") "\x7d" body

/-- A text between braces, on one line. -/
def inBraces (text : String) : String := "\x7b " ++ text ++ " \x7d"

/-- The struct that stands in for a class whose fields are known. -/
def standIn (c : ClassModel) : String := "_" ++ c.name

/-- How artifacts are indented. -/
def indent : Indent := .fourSpaces

end ClassBridge.Artifact
