/-!
# Faults of the disk

What the operating system answers when it does not do what it was asked for. Messages often end in
what somebody else had to say: the operating system, or the reader of a data format. How that is
worded is up to whoever shows the message, so a message takes the wording as an argument: the
system's own sentence for people, the fault's name for programs.
-/

namespace CompiledViews

/-- Why an operation on a path failed. -/
inductive IoFault
  | notFound
  | notADirectory
  | isADirectory
  | alreadyExists
  | directoryNotEmpty
  /-- The content is not UTF-8. -/
  | invalidData
  /-- The path has a NUL character. -/
  | invalidInput
  /-- A segment, or the whole path, is too long. -/
  | invalidFilename
  /-- The reader of the output has gone. -/
  | brokenPipe
  deriving DecidableEq, Inhabited

namespace IoFault

def name : IoFault → String
  | notFound => "NotFound"
  | notADirectory => "NotADirectory"
  | isADirectory => "IsADirectory"
  | alreadyExists => "AlreadyExists"
  | directoryNotEmpty => "DirectoryNotEmpty"
  | invalidData => "InvalidData"
  | invalidInput => "InvalidInput"
  | invalidFilename => "InvalidFilename"
  | brokenPipe => "BrokenPipe"

/-- The fault in the system's words. -/
def sentence : IoFault → String
  | notFound => "No such file or directory (os error 2)"
  | notADirectory => "Not a directory (os error 20)"
  | isADirectory => "Is a directory (os error 21)"
  | alreadyExists => "File exists (os error 17)"
  | directoryNotEmpty => "Directory not empty (os error 39)"
  | invalidData => "stream did not contain valid UTF-8"
  | invalidInput => "file name contained an unexpected NUL byte"
  | invalidFilename => "File name too long (os error 36)"
  | brokenPipe => "Broken pipe (os error 32)"

end IoFault

/-- Words for causes that are not this library's own. -/
structure Wording where
  /-- Words for a fault of the disk. -/
  io : IoFault → String
  /-- Words for a document that breaks the rules of its format. -/
  malformed : String

/-- The wording for people: the system's own sentences. -/
def Wording.plain : Wording := ⟨IoFault.sentence, "malformed document"⟩

end CompiledViews
