import DesignToCode.Json.Basic
import DesignToCode.Text.Case
import DesignToCode.Text.Quoted
import DesignToCode.Text.Search

set_option autoImplicit false

/-!
Loggers and what they wrote. A message of a logger is passed on to the loggers whose names it
extends, up to the first that does not pass it on, and each of them writes it to its handlers. The
first set-up of a logger counts until all are reset.
-/
namespace DesignToCode

open DesignToCode.Text

namespace Level

def named : List (String × Nat) := [
  ("CRITICAL", 50), ("ERROR", 40), ("WARNING", 30), ("INFO", 20), ("DEBUG", 10), ("NOTSET", 0)]

/-- Other words for levels. -/
def aliases : List (String × Nat) := [("FATAL", 50), ("WARN", 30)]

def ofName? (name : String) : Option Nat := (named ++ aliases).lookup name

def name (level : Nat) : String :=
  match named.find? (·.2 = level) with
  | some entry => entry.1
  | none => s!"Level {level}"

/-- A logger whose level is not set has that of the logger it extends, and at last this one. -/
def usual : Nat := 30

def unknownMessage (name : String) : String := s!"Unknown level: {quote name}"

end Level

/-- Where a logger writes. -/
inductive LogHandler where
  | console
  | file (path : String)
  deriving DecidableEq, Repr

def LogHandler.kind : LogHandler → String
  | console => "StreamHandler"
  | file _ => "FileHandler"

structure Logger where
  level : Nat := 0
  passesOn : Bool := true
  handlers : List LogHandler := []
  deriving DecidableEq, Repr

def Logger.toJson (l : Logger) : Json :=
  .obj [
    ("level", .str (Level.name l.level)),
    ("propagate", .bool l.passesOn),
    ("handlers", .list (.str ·.kind) l.handlers)]

/-- The loggers by name, the names of those that are set up, and what was written. -/
structure LogBook where
  loggers : List (String × Logger) := []
  configured : List String := []
  console : String := ""
  files : List (String × String) := []

namespace LogBook

def logger (book : LogBook) (name : String) : Logger := (book.loggers.lookup name).getD {}

/-- A path without empty steps and without steps that stay. -/
def joinPath (folder file : String) : String :=
  let steps := pieces '/' (folder.toList ++ '/' :: file.toList)
  "/".intercalate ((steps.filter fun s => !s.isEmpty && s != ['.']).map String.ofList)

/-- The file of a logger that has a folder and a name for it. -/
def filePath? (folder : Option String) (file : String) : Option String :=
  if file.isEmpty then none else folder.map fun folder => joinPath folder file

/-- Attaches the handlers of a logger and stops it from passing on; its file is made if it is not
there. A logger that is set up stays as it is. -/
def setup (book : LogBook) (name file level : String) (folder : Option String) :
    Except String LogBook :=
  if book.configured.contains name then .ok book
  else
    match Level.ofName? level with
    | none => .error (Level.unknownMessage level)
    | some level =>
      let path := filePath? folder file
      let logger := book.logger name
      let handlers := logger.handlers ++ .console :: (path.map LogHandler.file).toList
      .ok { book with
        loggers := Fields.put book.loggers name ⟨level, false, handlers⟩
        configured := book.configured ++ [name]
        files := match path with
          | some path => Fields.putNew book.files path ""
          | none => book.files }

/-- The loggers of the service and their files. -/
def serviceLoggers : List (String × String) := [("structra", "pipeline.log"), ("app", "api.log")]

/-- Sets up the loggers of the service, at a level in any case; without a level at the usual one,
and without a folder on the console only. -/
def configure (book : LogBook) (level usual folder : String) : Except String LogBook :=
  let level := upper (if level.isEmpty then usual else level)
  let folder := if folder.isEmpty then none else some folder
  serviceLoggers.foldlM (fun book entry => book.setup entry.1 entry.2 level folder) book

/-- Detaches the handlers of the loggers that are set up; levels stay. -/
def reset (book : LogBook) : LogBook where
  loggers := book.loggers.map fun entry =>
    if book.configured.contains entry.1 then (entry.1, ⟨entry.2.level, true, []⟩) else entry
  configured := []
  console := book.console
  files := book.files

/-- A name and the names that it extends, nearest first. -/
def chain (name : String) : List String :=
  let steps := (pieces '.' name.toList).map String.ofList
  (List.range steps.length).map fun k => ".".intercalate (steps.take (steps.length - k))

def effectiveLevel (book : LogBook) (name : String) : Nat :=
  (((chain name).map fun n => (book.logger n).level).find? (· ≠ 0)).getD Level.usual

/-- The handlers that a message reaches. -/
def reached (book : LogBook) : List String → List LogHandler
  | [] => []
  | name :: rest =>
    let logger := book.logger name
    logger.handlers ++ if logger.passesOn then book.reached rest else []

/-- What one handler adds; only a file tells the level. -/
def write (stamp name : String) (level : Nat) (message : String) (book : LogBook) :
    LogHandler → LogBook
  | .console => { book with console := book.console ++ s!"{stamp} [{name}] {message}\n" }
  | .file path =>
    let line := s!"{stamp} [{name}] [{Level.name level}] {message}\n"
    { book with files := Fields.put book.files path ((book.files.lookup path).getD "" ++ line) }

/-- A message below the level of its logger is not written. -/
def log (book : LogBook) (stamp name : String) (level : Nat) (message : String) : LogBook :=
  if level < book.effectiveLevel name then book
  else (book.reached (chain name)).foldl (write stamp name level message) book

end LogBook

end DesignToCode
