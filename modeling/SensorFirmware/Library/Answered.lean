import Mathlib.Data.List.Basic

/-!
# Answered requests

A trace of events in which every event of one kind is followed by one of another
kind, as every acquisition should be by a release.
-/

/-- Every request in the trace has an answer behind it. -/
def Answered (request answer : α → Prop) : List α → Prop
  | [] => True
  | event :: rest =>
      (request event → ∃ reply ∈ rest, answer reply) ∧ Answered request answer rest

namespace Answered

variable {request answer : α → Prop} {first second : List α}

/-- An answer at the end answers every request before it. -/
theorem append_answer
    (trace : List α)
    {reply : α}
    (answers : answer reply)
    (notRequest : ¬ request reply) :
    Answered request answer (trace ++ [reply]) := by
  induction trace with
  | nil => exact ⟨fun requests => absurd requests notRequest, trivial⟩
  | cons event trace inductionHypothesis =>
      exact ⟨fun _ => ⟨reply, by simp, answers⟩, inductionHypothesis⟩

/-- Two traces with answers make one with answers. -/
theorem append
    (firstAnswered : Answered request answer first)
    (secondAnswered : Answered request answer second) :
    Answered request answer (first ++ second) := by
  induction first with
  | nil => exact secondAnswered
  | cons event first inductionHypothesis =>
      obtain ⟨hasReply, rest⟩ := firstAnswered
      refine ⟨fun requests => ?_, inductionHypothesis rest⟩
      obtain ⟨reply, listed, answers⟩ := hasReply requests
      exact ⟨reply, List.mem_append_left second listed, answers⟩

/-- Wherever an answered trace is cut behind a request, an answer follows. -/
theorem exists_answer
    {before after : List α}
    {event : α}
    (answered : Answered request answer (before ++ event :: after))
    (requests : request event) :
    ∃ reply ∈ after, answer reply := by
  induction before with
  | nil => exact answered.1 requests
  | cons _ before inductionHypothesis => exact inductionHypothesis answered.2

end Answered
