import Salutation.Diagnostics.Filter

namespace Salutation
namespace Diagnostics
namespace Filter

/-!
# What a filter shows

The text of some entries is put together from the texts of those that are
shown.  Without a setting these are the warnings and the errors, so that a run
which records nothing but details shows nothing.
-/

theorem text_append (filter : Filter) (first last : List Entry) :
    filter.text (first ++ last) = filter.text first ++ filter.text last := by
  rw [text, List.filter_append, List.map_append, String.join_append, text, text]

/-- Nothing is shown of entries that are all kept back. -/
theorem text_of_hidden {filter : Filter} {entries : List Entry}
    (hidden : forall entry, entry ∈ entries -> filter.admits entry = false) :
    filter.text entries = "" := by
  have none : entries.filter filter.admits = [] := by
    rw [List.filter_eq_nil_iff]
    intro entry member
    exact Bool.eq_false_iff.mp (hidden entry member)
  rw [text, none]
  rfl

/-- An entry that is shown stands on a line. -/
theorem text_of_shown {filter : Filter} {entry : Entry} (shown : filter.admits entry = true) :
    filter.text [entry] = entry.text ++ "\n" := by
  rw [text, List.filter_cons_of_pos shown, List.map_cons, String.join_cons]
  exact String.append_empty

/-- Without a setting, the level of an entry decides. -/
theorem standard_admits (entry : Entry) :
    (ofSetting none).admits entry = decide (entry.level.rank <= Level.warn.rank) := by
  rfl

end Filter
end Diagnostics
end Salutation
