import DartSource.Layout.Indent
import DartSource.Layout.Fragment

/-!
# Sinks

A sink collects the text of a file. It knows its indentation unit and its current level, and every
fragment put into it is written at that level. A fragment leaves the level as it found it, so
fragments may be put one after the other without a thought for what went before.
-/

namespace DartSource

/-- Text under construction, with the level at which the next line will stand. -/
structure Sink where
  /-- The text of one level of indentation. -/
  unit : String
  /-- The current level. -/
  level : Nat
  /-- What has been written. -/
  text : String
  deriving DecidableEq, Repr

namespace Sink

/-- An empty sink at level zero. -/
def empty (indent : Indent) : Sink :=
  { unit := indent.unit, level := 0, text := "" }

/-- The indentation in front of a line at the current level. -/
def margin (sink : Sink) : String :=
  String.join (List.replicate sink.level sink.unit)

/-- Puts text as it is. -/
def raw (sink : Sink) (text : String) : Sink :=
  { sink with text := sink.text ++ text }

/-- Puts an indented line. -/
def line (sink : Sink) (text : String) : Sink :=
  sink.raw (sink.margin ++ text ++ "\n")

/-- Puts an empty line, which carries no indentation. -/
def blank (sink : Sink) : Sink :=
  sink.raw "\n"

/-- One level deeper. -/
def indent (sink : Sink) : Sink :=
  { sink with level := sink.level + 1 }

/-- One level up; at level zero nothing happens. -/
def dedent (sink : Sink) : Sink :=
  { sink with level := sink.level - 1 }

/-- Puts a doc comment. -/
def doc (sink : Sink) (text : String) : Sink :=
  (Text.lines text).foldl (fun s l => s.line (Fragment.docLine l)) sink

mutual

/-- Puts a fragment at the current level. -/
def fragment (sink : Sink) : Fragment → Sink
  | .line text => sink.line text
  | .blank => sink.blank
  | .raw text => sink.raw text
  | .doc text => sink.doc text
  | .block header body close =>
    let inner := (((sink.line header).indent).fragments body).dedent
    match close with
    | some text => inner.line text
    | none => inner

/-- Puts fragments one after the other. -/
def fragments (sink : Sink) : List Fragment → Sink
  | [] => sink
  | f :: rest => (sink.fragment f).fragments rest

end

end Sink

/-- The text of fragments that stand alone, with the customary indentation. -/
def Fragment.render (fragments : List Fragment) : String :=
  ((Sink.empty Indent.standard).fragments fragments).text

end DartSource
