/-!
# Votes

The answer of a listener that is asked before something happens. A tally is a denial if there is
one, else a deferral if there is one, else an approval.
-/

namespace Bxml

/-- The answer of a listener. -/
inductive Vote
  | approve
  | deny
  | deferred
deriving DecidableEq, Repr, Inhabited

namespace Vote

/-- Two votes as one. -/
def tally : Vote → Vote → Vote
  | .deny, _ => .deny
  | _, .deny => .deny
  | .deferred, _ => .deferred
  | _, .deferred => .deferred
  | .approve, .approve => .approve

/-- The vote of all of them. -/
def tallyAll (vs : List Vote) : Vote := vs.foldl tally .approve

/-- The word for a vote. -/
def text : Vote → String
  | .approve => "Approve"
  | .deny => "Deny"
  | .deferred => "Deferred"

/-- The vote that a word stands for. -/
def ofText? (s : String) : Option Vote := [Vote.approve, .deny, .deferred].find? (·.text == s)

@[simp] theorem approve_tally (v : Vote) : tally .approve v = v := by cases v <;> rfl

@[simp] theorem tally_approve (v : Vote) : v.tally .approve = v := by cases v <;> rfl

theorem tally_comm (v w : Vote) : v.tally w = w.tally v := by cases v <;> cases w <;> rfl

theorem tally_assoc (u v w : Vote) : (u.tally v).tally w = u.tally (v.tally w) := by
  cases u <;> cases v <;> cases w <;> rfl

@[simp] theorem deny_tally (v : Vote) : tally .deny v = .deny := by cases v <;> rfl

end Vote

end Bxml
