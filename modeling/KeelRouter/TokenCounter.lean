import KeelRouter.ExactFloat
import KeelRouter.UnicodeText

/-!
# Prompt token counting

A prompt is counted by its words or by its length in bytes, whichever imitates
the backend.  A prompt with any text in it counts as at least one token, so
that the projection never treats it as free.
-/

namespace KeelRouter

inductive TokenCounterKind where
  | whitespace
  | charsPerToken
deriving DecidableEq

structure TokenCounter where
  kind : TokenCounterKind
  charsPerToken : ExactFloat
deriving DecidableEq

namespace TokenCounter

def isExact (self : TokenCounter) : Bool :=
  match self.kind with
  | .whitespace => true
  | .charsPerToken => false

/-- `TokenCounter::count` -/
def count (self : TokenCounter) (text : List Char) : UInt32 :=
  if (UnicodeText.trim text).isEmpty then 0
  else
    let n := match self.kind with
      | .whitespace => (UnicodeText.splitWhitespace text).length
      | .charsPerToken =>
          (ExactFloat.finite (UnicodeText.byteLength text) / self.charsPerToken).ceil.toUInt64.toNat
    UInt32.ofNat (max 1 (min n 4294967295))

/-- Text counts as zero tokens exactly when it is blank. -/
theorem count_eq_zero_iff (self : TokenCounter) (text : List Char) :
    self.count text = 0 ↔ UnicodeText.trim text = [] := by
  unfold count
  split
  · rename_i blank
    exact iff_of_true rfl (List.isEmpty_iff.mp blank)
  · rename_i someText
    have nonempty : UnicodeText.trim text ≠ [] := by simpa using someText
    refine iff_of_false ?_ nonempty
    intro zero
    have counted := congrArg UInt32.toNat zero
    simp only [UInt32.toNat_ofNat'] at counted
    have positive (n : Nat) : max 1 (min n 4294967295) % 2 ^ 32 ≠ 0 := by omega
    exact positive _ counted

/-- By words, a text counts as many tokens as it has words, as far as the count
goes. -/
theorem toNat_count {self : TokenCounter} (byWords : self.kind = .whitespace)
    (text : List Char) :
    (self.count text).toNat = min (UnicodeText.splitWhitespace text).length (2 ^ 32 - 1) := by
  by_cases blank : UnicodeText.trim text = []
  · rw [(self.count_eq_zero_iff text).mpr blank, UnicodeText.splitWhitespace_eq_nil_iff.mpr blank]
    rfl
  · have words : (UnicodeText.splitWhitespace text).length ≠ 0 := by
      rw [List.length_eq_zero_iff.ne]
      exact UnicodeText.splitWhitespace_eq_nil_iff.not.mpr blank
    have counted : self.count text = UInt32.ofNat (max 1 (min
        (UnicodeText.splitWhitespace text).length 4294967295)) := by
      unfold count
      rw [if_neg (by simpa using blank), byWords]
    rw [counted, UInt32.toNat_ofNat']
    omega

end TokenCounter

end KeelRouter
