/-!
# Leading text

What it means that a text starts with another one.  Two texts that both start a
third are comparable: one starts the other (`startsWith_or_startsWith`).
-/

namespace SingleTable.Text

/-- The text starts with `lead`. -/
def startsWith (text lead : String) : Bool :=
  lead.toList.isPrefixOf text.toList

theorem startsWith_iff {text lead : String} :
    startsWith text lead = true ↔ lead.toList <+: text.toList := by
  simp [startsWith]

@[simp]
theorem startsWith_empty (text : String) : startsWith text "" = true := by
  simp [startsWith]

@[simp]
theorem startsWith_self (text : String) : startsWith text text = true := by
  simp [startsWith]

theorem startsWith_or_startsWith {text a b : String} (hFirst : startsWith text a = true)
    (hSecond : startsWith text b = true) :
    startsWith a b = true ∨ startsWith b a = true := by
  rw [startsWith_iff] at hFirst hSecond
  rw [startsWith_iff, startsWith_iff]
  exact List.prefix_or_prefix_of_prefix hSecond hFirst

end SingleTable.Text
