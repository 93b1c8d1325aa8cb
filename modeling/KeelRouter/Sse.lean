import KeelRouter.SerdeJson
import KeelRouter.UnicodeText

/-!
# Server-sent event lines

The payload of a `data:` line is the end marker or a JSON chunk.  A chunk with
an `error` is an error frame whatever else it carries, one with empty `choices`
reports usage, and any other one is classified by its first delta.
-/

namespace KeelRouter

open SerdeJson (Codec Value)

inductive Frame where
  | roleHeader
  | content (text : String)
  | emptyContent
  | usage (promptTokens completionTokens : UInt32)
  | error (message : String)
  | done
deriving DecidableEq

inductive ParsedLine where
  | done
  | json (v : Value)

/-- `sse::parse_line` -/
def parseLine (codec : Codec) (line : List Char) : Option ParsedLine :=
  let line := UnicodeText.trim line
  if line.isEmpty then none
  else if line = "[DONE]".toList then some .done
  else
    match codec.fromStr line with
    | .error _ => none
    | .ok v => some (.json v)

/-- A token count in the usage of a chunk, zero where there is none. -/
def usageField (usage : Option Value) (name : String) : UInt32 :=
  (((usage.bind fun u => u.get name).bind Value.asU64).getD 0).toUInt32

/-- The frame of a JSON chunk. -/
def classifyJson (v : Value) : Option Frame :=
  match v.get "error" with
  | some err =>
      let message := ((err.get "message").bind Value.asStr).getD "unknown error"
      some (.error message)
  | none => do
      let choices ← (← v.get "choices").asArray
      match choices with
      | [] =>
          let usage := v.get "usage"
          return .usage (usageField usage "prompt_tokens") (usageField usage "completion_tokens")
      | choice :: _ =>
          let delta ← choice.get "delta"
          if (delta.get "role").isSome then return .roleHeader
          match (delta.get "content").bind Value.asStr with
          | some text => if text = "" then return .emptyContent else return .content text
          | none => return .emptyContent

/-- `sse::classify` -/
def classify : ParsedLine → Option Frame
  | .done => some .done
  | .json v => classifyJson v

/-- The payload of a line as `poll_frame` cuts it out. -/
def payload (line : List Char) : List Char :=
  let line := UnicodeText.trim line
  UnicodeText.trim ((UnicodeText.stripPrefix "data:".toList line).getD line)

/-- The frame that a line of the stream carries. -/
def lineFrame (codec : Codec) (line : List Char) : Option Frame :=
  (parseLine codec (payload line)).bind classify

theorem classifyJson_eq_error_iff (v : Value) :
    (∃ message, classifyJson v = some (.error message)) ↔ (v.get "error").isSome := by
  unfold classifyJson
  cases present : v.get "error" with
  | some err => simp
  | none =>
      refine iff_of_false ?_ (by simp)
      rintro ⟨message, classified⟩
      simp only [Option.bind_eq_bind, Option.bind_eq_some_iff] at classified
      obtain ⟨listed, -, choices, -, classified⟩ := classified
      cases choices with
      | nil => simp at classified
      | cons choice choices =>
          simp only [Option.bind_eq_some_iff] at classified
          obtain ⟨delta, -, classified⟩ := classified
          split at classified
          · simp at classified
          · split at classified
            · split at classified <;> simp at classified
            · simp at classified

end KeelRouter
