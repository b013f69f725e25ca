import Salutation.Diagnostics.Directive

namespace Salutation
namespace Diagnostics

/-!
# Filters

A filter is a list of directives, and the one that asks for most decides about
an entry.  An entry that no directive covers is not shown.  Without a setting,
or with one that cannot be read, warnings and errors are shown; a setting
without directives shows nothing.
-/

structure Filter where
  directives : List Directive
  deriving DecidableEq, Repr

namespace Filter

/-- Warnings and errors of all targets. -/
def standard : Filter := ⟨[.ofThreshold (some .warn)]⟩

/-- The directives of a setting, which are separated by commas.  One that
cannot be read makes the whole setting unreadable. -/
def ofText? (setting : String) : Option Filter :=
  let parts := (setting.toList.splitOn ',').filter (fun part => !part.isEmpty)
  (parts.mapM Directive.ofText?).map Filter.mk

/-- The filter of a setting that may not have been made. -/
def ofSetting (setting : Option String) : Filter :=
  (setting.bind ofText?).getD standard

/-- The directive that decides about an entry: of those that ask for as much
as any other, the last one. -/
def decisive (filter : Filter) (entry : Entry) : Option Directive :=
  (filter.directives.filter (fun directive =>
      !directive.needsSpan && directive.covers entry)).foldl
    (fun best directive =>
      match best with
      | none => some directive
      | some earlier => if directive.asksAsMuchAs earlier then some directive else some earlier)
    none

/-- Whether an entry is shown. -/
def admits (filter : Filter) (entry : Entry) : Bool :=
  match filter.decisive entry with
  | none => false
  | some directive => directive.threshold.admits entry.level

/-- The text of the entries that are shown, each on a line. -/
def text (filter : Filter) (entries : List Entry) : String :=
  String.join ((entries.filter filter.admits).map (fun entry => entry.text ++ "\n"))

end Filter
end Diagnostics
end Salutation
