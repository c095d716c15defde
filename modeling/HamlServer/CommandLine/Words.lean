import HamlServer.CommandLine.Setting

/-!
The words of the command line.

An option that takes a value has it behind an equals sign or in the next word.  A value in a word of
its own is read late, when the next option has been recognized or the words are at their end: a word
behind it that cannot stand there is the first thing to be reported.
-/

namespace HamlServer

/-- A word of the command line. -/
inductive Word where
  | plain (text : String)
  | long (name : String) (value : Option String)
  | short (letter : Char)
  deriving DecidableEq, Repr

/-- What kind of word a text is.  A single hyphen is plain. -/
def Word.ofString (text : String) : Word :=
  match text.toList with
  | '-' :: '-' :: r =>
    let name := r.takeWhile (· ≠ '=')
    let value := match r.drop name.length with
      | _ :: value => some (String.ofList value)
      | [] => none
    .long (String.ofList name) value
  | '-' :: c :: _ => .short c
  | _ => .plain text

namespace Overrides

/-- The words so far: what they say, and the option that still waits for its value or for its value
to be read. -/
structure Partial where
  known : Overrides := {}
  waiting : Option (Setting × Option String) := none

namespace Partial

/-- Reads the value that waits. -/
def settle (p : Partial) : Except Halt Overrides :=
  match p.waiting with
  | none => .ok p.known
  | some (s, none) => .error (.missingValue s)
  | some (s, some text) => p.known.add s text

/-- Answers a question, once the value that waits has been read. -/
def answer (p : Partial) (value : Option String) (name : String) (h : Halt) :
    Except Halt Partial :=
  if value.isSome then .error (.needlessValue name)
  else match p.settle with
    | .ok _ => .error h
    | .error e => .error e

/-- Takes the option of a setting. -/
def option (p : Partial) (s : Setting) (value : Option String) : Except Halt Partial :=
  if s.isFlag then
    if value.isSome then .error (.needlessValue s.optionName)
    else do return ⟨← (← p.settle).add s "true", none⟩
  else match value with
    | some text => do return ⟨← (← p.settle).add s text, none⟩
    | none => do return ⟨← p.settle, some (s, none)⟩

/-- Takes a word. -/
def step (p : Partial) : Word → Except Halt Partial
  | .plain text =>
    match p.waiting with
    | some (s, none) => .ok { p with waiting := some (s, some text) }
    | _ => .error (.unknownWord text)
  | .short c =>
    if c = 'h' then p.answer none "h" .helpAsked
    else if c = 'V' then p.answer none "V" .versionAsked
    else .error (.unknownWord (String.ofList ['-', c]))
  | .long name value =>
    if name = "help" then p.answer value name .helpAsked
    else if name = "version" then p.answer value name .versionAsked
    else match Setting.ofOptionName? name with
      | some s => p.option s value
      | none => .error (.unknownWord ("--" ++ name))

/-- Takes words to their end.  Nothing may stand behind the word of two hyphens. -/
def run (p : Partial) : List String → Except Halt Overrides
  | [] => p.settle
  | ["--"] => p.settle
  | "--" :: word :: _ => .error (.unknownWord word)
  | word :: rest => do (← p.step (.ofString word)).run rest

end Partial

/-- What the words of the command line say. -/
def ofWords (words : List String) : Except Halt Overrides := Partial.run {} words

end Overrides

end HamlServer
