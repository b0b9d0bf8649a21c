/-!
# Dialogues

A `Dialogue Q A α` is a computation that asks questions of type `Q`, each answered by a value of
the type that `A` gives for the question, and ends with a value. It says what is asked and what
is made of the answers, and leaves open who answers: a store in memory, a server, or an adversary
about whom a statement is to hold.

## Main definitions

- `Dialogue.bind`: one dialogue after another, with `Dialogue.bind_assoc`.
- `Dialogue.answer`: the run against a respondent with a state of its own.
- `Dialogue.answerUnless`: the run that stops without a result at certain questions.
- `Dialogue.via`: every question asked by way of a dialogue in other questions.
-/

namespace GeoPlacement

/-- A computation that asks questions and ends with a value. -/
inductive Dialogue (Q : Type) (A : Q → Type) (α : Type) : Type
  | done (value : α)
  | ask (question : Q) (next : A question → Dialogue Q A α)

namespace Dialogue

variable {Q : Type} {A : Q → Type} {α β γ : Type}

/-- Continues with the value of a dialogue. -/
def bind : Dialogue Q A α → (α → Dialogue Q A β) → Dialogue Q A β
  | done value, f => f value
  | ask question next, f => ask question fun answer => (next answer).bind f

instance : Monad (Dialogue Q A) where
  pure := done
  bind := bind

/-- The dialogue of a single question. -/
def question (q : Q) : Dialogue Q A (A q) :=
  ask q done

/-- A dialogue that has ended goes on with its value. -/
@[simp] theorem bind_done (value : α) (f : α → Dialogue Q A β) : (done value).bind f = f value :=
  rfl

/-- A question is asked first, whatever comes after the dialogue. -/
theorem bind_ask (q : Q) (next : A q → Dialogue Q A α) (f : α → Dialogue Q A β) :
    (ask q next).bind f = ask q fun answer => (next answer).bind f :=
  rfl

/-- Of three dialogues one after another, either two may be taken together. -/
theorem bind_assoc (d : Dialogue Q A α) (f : α → Dialogue Q A β) (g : β → Dialogue Q A γ) :
    (d.bind f).bind g = d.bind fun value => (f value).bind g := by
  induction d with
  | done value => rfl
  | ask q next ih => simp only [bind_ask]; congr; funext answer; exact ih answer

/-- Runs a dialogue against a respondent that keeps a state. -/
def answer {σ : Type} (respond : (q : Q) → σ → A q × σ) : Dialogue Q A α → σ → α × σ
  | done value, s => (value, s)
  | ask q next, s =>
    let (reply, s) := respond q s
    (next reply).answer respond s

/-- One dialogue after another is run against the state that the first one leaves. -/
theorem answer_bind {σ : Type} (respond : (q : Q) → σ → A q × σ) (d : Dialogue Q A α)
    (f : α → Dialogue Q A β) (s : σ) :
    (d.bind f).answer respond s =
      (f (d.answer respond s).1).answer respond (d.answer respond s).2 := by
  induction d generalizing s with
  | done value => rfl
  | ask q next ih => rw [bind_ask, answer, answer]; exact ih _ _

/-- Runs a dialogue against a respondent that keeps a state, as long as no question stops the run.
There is no result once one does. -/
def answerUnless {σ : Type} (respond : (q : Q) → σ → A q × σ) (stops : Q → σ → Bool) :
    Dialogue Q A α → σ → Option (α × σ)
  | done value, s => some (value, s)
  | ask q next, s =>
    if stops q s then none
    else
      let (reply, s) := respond q s
      (next reply).answerUnless respond stops s

/-- One dialogue after another is stopped if either one is. -/
theorem answerUnless_bind {σ : Type} (respond : (q : Q) → σ → A q × σ) (stops : Q → σ → Bool)
    (d : Dialogue Q A α) (f : α → Dialogue Q A β) (s : σ) :
    (d.bind f).answerUnless respond stops s =
      (d.answerUnless respond stops s).bind fun result =>
        (f result.1).answerUnless respond stops result.2 := by
  induction d generalizing s with
  | done value => rfl
  | ask q next ih =>
      rw [bind_ask, answerUnless, answerUnless]
      split
      · rfl
      · exact ih _ _

/-- **A run that is not stopped** has the result of the run that nothing stops. -/
theorem answerUnless_eq_none_or {σ : Type} (respond : (q : Q) → σ → A q × σ)
    (stops : Q → σ → Bool) (d : Dialogue Q A α) (s : σ) :
    d.answerUnless respond stops s = none ∨
      d.answerUnless respond stops s = some (d.answer respond s) := by
  induction d generalizing s with
  | done value => exact .inr rfl
  | ask q next ih =>
      rw [answerUnless, answer]
      split
      · exact .inl rfl
      · exact ih _ _

/-- Asks every question by way of a dialogue in questions of another type. -/
def via {Q' : Type} {A' : Q' → Type} (f : (q : Q) → Dialogue Q' A' (A q)) :
    Dialogue Q A α → Dialogue Q' A' α
  | done value => done value
  | ask q next => (f q).bind fun reply => (next reply).via f

end Dialogue

end GeoPlacement
