/-!
# Dialogues

A program that talks to the world outside is a tree of questions: at each node one question, and
for every possible answer the program that goes on from there. So a program is data, and what it
asks can be reasoned about without saying who answers. `Dialogue.run` plays a program against
one who answers from a state.
-/

namespace CriticalCss

/-- A program that asks questions `q : Q`, gets answers of type `A q`, and ends with a value. -/
inductive Dialogue (Q : Type) (A : Q → Type) (α : Type) where
  | done (value : α)
  | ask (question : Q) (next : A question → Dialogue Q A α)

namespace Dialogue

variable {Q : Type} {A : Q → Type} {α β γ σ : Type}

/-- Goes on with the value of a dialogue. -/
protected def bind : Dialogue Q A α → (α → Dialogue Q A β) → Dialogue Q A β
  | done a, f => f a
  | ask q next, f => ask q fun answer => (next answer).bind f

instance : Monad (Dialogue Q A) where
  pure := done
  bind := Dialogue.bind

def query (q : Q) : Dialogue Q A (A q) :=
  ask q done

/-- The value of a dialogue and the state after it, if questions are answered by `respond`. -/
def run (respond : (q : Q) → σ → A q × σ) : Dialogue Q A α → σ → α × σ
  | done a, s => (a, s)
  | ask q next, s =>
    let answered := respond q s
    (next answered.1).run respond answered.2

theorem bind_done (x : Dialogue Q A α) : x.bind done = x := by
  induction x with
  | done a => rfl
  | ask q next ih => exact congrArg (ask q) (funext ih)

theorem bind_assoc (x : Dialogue Q A α) (f : α → Dialogue Q A β) (g : β → Dialogue Q A γ) :
    (x.bind f).bind g = x.bind fun a => (f a).bind g := by
  induction x with
  | done a => rfl
  | ask q next ih => exact congrArg (ask q) (funext ih)

instance : LawfulMonad (Dialogue Q A) :=
  LawfulMonad.mk' _ bind_done (fun _ _ => rfl) bind_assoc

end Dialogue

end CriticalCss
