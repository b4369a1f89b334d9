import FeedRelay.Log.Directive
import FeedRelay.Text.LowerCase
import FeedRelay.Text.Split

/-!
# Filtering the log

A filter is a list of directives. Of those that speak about a line, the most specific one
decides; where none does, the line is not shown. A filter without any directives shows errors.
-/

namespace FeedRelay.Log

/-- A filter of lines. -/
structure Filter where
  directives : List Directive
  deriving DecidableEq, Repr

namespace Filter

/-- Whether two directives are about the same lines, so that the later one replaces the
earlier one. -/
def sameScope (a b : Directive) : Bool :=
  a.target = b.target && a.fields = b.fields

/-- The more specific of two directives, the first one if they are equally specific. -/
def moreSpecific (a b : Directive) : Directive :=
  let x := a.specificity
  let y := b.specificity
  if x.1 < y.1 ∨ (x.1 = y.1 ∧ x.2 < y.2) then b else a

/-- The directive that decides about the lines of a target. -/
def deciding? (filter : Filter) (target : List Char) : Option Directive :=
  let static := filter.directives.filter (·.isStatic)
  let last := static.foldl (fun kept d => kept.filter (!sameScope d ·) ++ [d]) []
  match last.filter (·.covers target) with
  | [] => none
  | d :: rest => some (rest.foldl moreSpecific d)

/-- Whether a line of a target and a level is shown. -/
def shows (filter : Filter) (target : String) (level : Level) : Bool :=
  if filter.directives.isEmpty then level = .error
  else (filter.deciding? target.toList).any (·.admits level)

/-- Read a filter: directives with commas between them. -/
def parse? (text : String) : Option Filter :=
  (((Text.split ',' text.toList).filter (!·.isEmpty)).mapM Directive.parse?).map Filter.mk

/-- The level that a setting names, in any case; any other word stands for the usual level. -/
def levelOfSetting (word : String) : Level :=
  match Text.lower word with
  | "error" => .error
  | "warn" | "warning" => .warn
  | "debug" => .debug
  | "trace" => .trace
  | _ => .info

/-- The filter of one level for all targets. -/
def upTo (level : Level) : Filter :=
  ⟨[{ target := none, inSpan := false, fields := [], level := some level }]⟩

/-- The filter to use: that of the environment if it is given there and can be read, and that of
the settings otherwise. -/
def choose (given : Option String) (setting : String) : Filter :=
  match given.bind parse? with
  | some filter => filter
  | none => upTo (levelOfSetting setting)

end Filter

end FeedRelay.Log
