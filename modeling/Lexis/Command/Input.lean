import Lexis.Failure
import Lexis.Files.Basic
import Lexis.Log.Event

/-!
# Inputs

A source text comes from a file, from standard input or from the command line itself. Whichever
way it comes, its bytes are read as UTF-8 and nothing in it is changed. Files and standard input may
turn out not to be readable.
-/

namespace Lexis

/-- Where a source text comes from. -/
inductive Input where
  /-- A file. -/
  | file (path : String)
  /-- Standard input. -/
  | standardInput
  /-- The text itself. -/
  | inline (text : String)
deriving DecidableEq, Repr

/-- What standard input gives to a run. -/
inductive StandardInput where
  /-- All of its bytes, up to its end. -/
  | bytes (content : ByteArray)
  /-- It cannot be read to its end, for the given reason. -/
  | unreadable (reason : String)

namespace StandardInput

/-- Standard input that has ended before it gives anything. -/
def empty : StandardInput :=
  bytes .empty

/-- Bytes stand for standard input that gives them. -/
instance : Coe ByteArray StandardInput where
  coe := bytes

end StandardInput

/-- The outcome of reading a text, and the events on the way. -/
structure Reading where
  /-- The events, oldest first. -/
  events : List Event
  /-- The text, or why there is none. -/
  text : Except Failure String

/-- The text that bytes stand for. -/
def decodeText (bytes : ByteArray) : Except Failure String :=
  match String.fromUTF8? bytes with
  | some text => .ok text
  | none => .error (.device .notText)

/-- Reads a source file. -/
def readSource (files : Files) (path : String) : Reading :=
  match files path with
  | .missing => { events := [], text := .error (.input (.missing path)) }
  | .directory => { events := [], text := .error (.input (.notFile path)) }
  | .unreadable reason =>
    { events := [.readingSource path], text := .error (.device (.stated reason)) }
  | .file content => { events := [.readingSource path], text := decodeText content }

/-- The text that standard input gives. -/
def StandardInput.text : StandardInput → Except Failure String
  | bytes content => decodeText content
  | unreadable reason => .error (.device (.stated reason))

namespace Input

/-- The input that a path and a text on the command line ask for. Exactly one of them must be
given; a single hyphen stands for standard input. -/
def ofArguments : Option String → Option String → Except InputFault Input
  | some _, some _ => .error .fileAndText
  | none, none => .error .nothingGiven
  | none, some text => .ok (.inline text)
  | some path, none => .ok (if path = "-" then .standardInput else .file path)

/-- The name of an input in messages. -/
def label : Input → String
  | file path => path
  | standardInput => "<stdin>"
  | inline _ => "<expr>"

/-- Reads an input, given the files and standard input. -/
def read (files : Files) (stdin : StandardInput) : Input → Reading
  | file path => readSource files path
  | standardInput => { events := [], text := stdin.text }
  | inline text => { events := [], text := .ok text }

end Input

end Lexis
