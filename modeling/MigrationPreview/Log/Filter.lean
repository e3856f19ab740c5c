import MigrationPreview.Log.Directive

/-!
# Log filters

Which messages are printed. A filter is a list of directives, separated by commas. Of those that are
about a message, the most exact one decides.

## Main definitions

* `LogFilter.parse?`, `LogFilter.ofVariable`: the filter in a text or in a variable
* `LogFilter.allows`: what a filter lets pass
-/

namespace MigrationPreview

/-- A filter. -/
structure LogFilter where
  directives : List LogDirective
  deriving DecidableEq

namespace LogFilter

/-- The filter that lets all messages up to a level pass. -/
def upTo (level : LogLevel) : LogFilter := ⟨[{ limit := level.rank }]⟩

/-- The filter that a text stands for, if all of its directives can be read. Without directives it
lets errors pass. -/
def parse? (text : String) : Option LogFilter :=
  let parts := (text.toList.splitOn ',').filter (!·.isEmpty)
  if parts.isEmpty then some (upTo .error) else (parts.mapM LogDirective.parse?).map .mk

/-- The filter in a variable. Where it is absent or cannot be read, the level depends on whether
the run is verbose. -/
def ofVariable (text : Option String) (verbose : Bool) : LogFilter :=
  (text.bind parse?).getD (upTo (if verbose then .debug else .info))

/-- The directive that decides about a message: of the most exact ones the last. -/
def decisive? (f : LogFilter) (e : LogEntry) : Option LogDirective :=
  (f.directives.filter (·.covers e)).foldl (fun best d =>
    match best with
    | some b => if d.precision < b.precision then some b else some d
    | none => some d) none

/-- Whether a message is printed. -/
def allows (f : LogFilter) (e : LogEntry) : Bool :=
  match f.decisive? e with
  | some d => e.level.rank ≤ d.limit
  | none => false

end LogFilter

end MigrationPreview
