import CompiledViews.Directive.Error
import CompiledViews.Disk.Fault
import CompiledViews.Path

/-!
# What can go wrong with a template

A fault is of a kind, and may have a cause: a fault of the disk, an error of a directive, or, when a
part of the page comes from another view, the fault of that view. The chain of causes is kept whole.
-/

namespace CompiledViews.Template

inductive FaultKind
  /-- No view has this name. -/
  | templateNotFound
  /-- The text breaks the rules of the language. -/
  | syntaxError
  /-- A string has an escape that does not exist. -/
  | badEscape
  /-- An included view failed. -/
  | badInclude
  /-- A block failed that was called from the block in its place. -/
  | evalBlock
  /-- Something was looked up in what is not there. -/
  | undefinedError
  | unknownFilter
  | unknownTest
  | unknownFunction
  | unknownMethod
  /-- The operation is not for values like these. -/
  | invalidOperation
  | tooManyArguments
  | missingArgument
  /-- A value could not be taken apart into as many names. -/
  | cannotUnpack
  deriving DecidableEq

def FaultKind.name : FaultKind → String
  | templateNotFound => "TemplateNotFound"
  | syntaxError => "SyntaxError"
  | badEscape => "BadEscape"
  | badInclude => "BadInclude"
  | evalBlock => "EvalBlock"
  | undefinedError => "UndefinedError"
  | unknownFilter => "UnknownFilter"
  | unknownTest => "UnknownTest"
  | unknownFunction => "UnknownFunction"
  | unknownMethod => "UnknownMethod"
  | invalidOperation => "InvalidOperation"
  | tooManyArguments => "TooManyArguments"
  | missingArgument => "MissingArgument"
  | cannotUnpack => "CannotUnpack"

/-- Why a template could not be loaded or rendered. -/
inductive Fault
  | plain (kind : FaultKind)
  /-- The file of a view cannot be read. -/
  | unreadable (path : Path) (fault : IoFault)
  /-- A directive of a view cannot be expanded. -/
  | unexpandable (view : Text) (error : DirectiveError)
  /-- A fault of this kind, because of another fault. -/
  | within (kind : FaultKind) (cause : Fault)
  deriving DecidableEq

namespace Fault

def kind : Fault → FaultKind
  | plain kind => kind
  | unreadable .. => .invalidOperation
  | unexpandable .. => .syntaxError
  | within kind _ => kind

/-- The chain of causes in words, outermost first. -/
def chain (io : IoFault → String) : Fault → List String
  | plain kind => [kind.name]
  | unreadable _ fault => [FaultKind.invalidOperation.name, io fault]
  | unexpandable _ error => [FaultKind.syntaxError.name, error.message]
  | within kind cause => kind.name :: cause.chain io

/-- What was being done to a view's own file when the innermost fault occurred. -/
def detail? : Fault → Option String
  | plain _ => none
  | unreadable path _ => some s!"failed to read {path.toString}"
  | unexpandable view _ => some s!"failed to expand directives in {String.ofList view}"
  | within _ cause => cause.detail?

end Fault

end CompiledViews.Template
