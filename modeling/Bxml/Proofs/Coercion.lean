import Bxml.Proofs.Binary64.Text
import Bxml.Proofs.Url.Visible
import Bxml.Proofs.World.Slots

/-!
# Values as other values

Coercion to a type is a projection on null and the values of that type, and the texts that it gives
lead back to the values they were written for (`coerce_coerce`): no text has white space around it
that a reader would drop, and every integer and every floating point number is read from what is
written for it.  Whether a URL is read from its text is a matter of URLs, `Value.ReadsBack`.

`read?_text` is the way from a value to its text and back, which rests on the ones for numbers in
`Binary64/Text.lean` and `readInt64?_writeInt64`.  `Alike` is equality, except that a NaN is alike to
every other NaN.
-/

namespace Bxml

namespace Text

theorem readInt64?_writeInt64 (i : Int64) : readInt64? (writeInt64 i).toList = some i := by
  unfold readInt64? writeInt64
  rw [String.toList_ofList, readInt?_writeInt]
  dsimp only
  rw [if_pos ⟨i.minValue_le_toInt, i.toInt_le⟩, Int64.ofInt_toInt]

theorem visible_writeInt64 (i : Int64) : Visible (writeInt64 i).toList := by
  rw [writeInt64, String.toList_ofList]
  exact visible_writeInt i.toInt

end Text

namespace Value

/-- Whether two values are equal, or both no number. -/
def Alike (v w : Value) : Prop :=
  (v == w) = true ∨ v.isNumberOrOther = false ∧ w.isNumberOrOther = false

/-- Whether a value is no URL, or one that its text stands for. -/
def ReadsBack : Value → Prop
  | .url u => ∃ v, Url.parse u.text = .ok v ∧ (v == u) = true
  | _ => True

theorem Alike.refl (v : Value) : v.Alike v := by
  cases h : v.isNumberOrOther with
  | false => exact .inr ⟨h, h⟩
  | true => exact .inl (beq_self h)

end Value

namespace ValueType

/-- The text of a value of a type is read as the value again. -/
theorem read?_text (typeName : ObjectId → String) {t : ValueType} {w : Value}
    (ht : t ∈ [bool, int, float, string, url]) (hw : t.owns w = true) (hr : w.ReadsBack) :
    ∃ w', t.read? (w.text typeName) = some w' ∧ w'.Alike w := by
  cases t
  case any | object => simp at ht
  all_goals cases w <;> simp only [owns, Bool.false_eq_true] at hw
  case bool b =>
    have read : bool.read? (Value.boolText b) = some (.bool b) := by cases b <;> decide
    exact ⟨_, read, .refl _⟩
  case int i =>
    have trimmed := (Text.visible_writeInt64 i).isTrimmed
    refine ⟨.int i, ?_, .refl _⟩
    unfold read? Value.text
    dsimp only
    rw [Text.trimChars_eq_self.2 trimmed, Text.readInt64?_writeInt64]
    rfl
  case float x =>
    have trimmed := (Binary64.visible_toText x).isTrimmed
    unfold read? Value.text
    dsimp only
    rw [Text.trimChars_eq_self.2 trimmed]
    cases hn : x.isNaN with
    | true =>
      rw [Binary64.ofText?_toText_of_isNaN hn]
      exact ⟨_, rfl, .inr ⟨by decide, by simp [Value.isNumberOrOther, hn]⟩⟩
    | false =>
      rw [Binary64.ofText?_toText hn]
      exact ⟨_, rfl, .refl _⟩
  case string s => exact ⟨_, rfl, .refl _⟩
  case url u =>
    obtain ⟨v, hv, same⟩ := hr
    have trimmed : Text.IsTrimmed u.text.toList := by
      have chars : v.chars = u.chars := eq_of_beq same
      rw [Url.text, String.toList_ofList, ← chars]
      exact Url.isTrimmed_chars_of_parse hv
    refine ⟨.url v, ?_, .inl same⟩
    unfold read? Value.text
    dsimp only
    rw [Text.trimChars_eq_self.2 trimmed, String.ofList_toList, hv]
    rfl

/-- What a value becomes as a value of a type is null or of that type, and stays what it is when it
is made a value of the type again.  Every value of a type that texts are read as is led back to by
its own text. -/
theorem coerce_coerce (typeName : ObjectId → String) (t : ValueType) (name : String) :
    (∀ v w, t.coerce typeName name v = .ok w →
      (w = .null ∨ t.owns w = true) ∧ t.coerce typeName name w = .ok w) ∧
    ∀ w, t ∈ [bool, int, float, string, url] → t.owns w = true → w.ReadsBack →
      ∃ s w', string.coerce typeName name w = .ok (.string s) ∧
        t.coerce typeName name (.string s) = .ok w' ∧ w'.Alike w := by
  refine ⟨fun v w h => ?_, fun w ht hw hr => ?_⟩
  · rw [coerce_eq_ok] at h
    exact ⟨owns_of_stored? h, coerce_eq_ok.2 (stored?_stored? h)⟩
  · obtain ⟨w', hread, same⟩ := read?_text typeName ht hw hr
    refine ⟨w.text typeName, w', ?_, ?_, same⟩
    · unfold coerce
      cases t
      case any | object => simp at ht
      all_goals cases w <;> simp only [owns, Bool.false_eq_true] at hw
      all_goals rfl
    · rw [coerce_eq_ok, stored?_eq_read?]
      exact hread

theorem coerce_coerce_fileRoot :
    (float.coerce (fun _ => "") "ratio" (.string " 0.5 ") = .ok (.float (Binary64.ofRatio false 1 2)) ∧
      float.coerce (fun _ => "") "ratio" (.float (Binary64.ofRatio false 1 2)) =
        .ok (.float (Binary64.ofRatio false 1 2))) ∧
    ∃ s w', string.coerce (fun _ => "") "source" (.url Url.fileRoot) = .ok (.string s) ∧
      url.coerce (fun _ => "") "source" (.string s) = .ok w' ∧ w'.Alike (.url Url.fileRoot) := by
  have read : float.coerce (fun _ => "") "ratio" (.string " 0.5 ") =
      .ok (.float (Binary64.ofRatio false 1 2)) := coerce_eq_ok.2 (by decide +kernel)
  exact ⟨⟨read, ((coerce_coerce (fun _ => "") float "ratio").1 _ _ read).2⟩,
    (coerce_coerce (fun _ => "") url "source").2 _ (by decide) rfl
      ⟨Url.fileRoot, by decide +kernel, by decide⟩⟩

end ValueType

end Bxml
