import Postal.Country.Names
import Postal.Ruleset.Generic

/-!
# Programs over datasets

What parsing and formatting do is written once, as a program that asks for datasets and goes on with
the answers. Blocking and non-blocking runs are two ways of answering.
-/

namespace Postal

/-- A computation that asks for datasets, and for what has been made of them. -/
inductive Program (α : Type) where
  | done (value : α)
  | fetch (key : DataKey) (next : Outcome → Program α)
  | compileRules (spec : String) (value : Json) (next : Governing → Program α)
  | compileNames (spec : String) (value : Json) (next : Option NameTable → Program α)

namespace Program

variable {α β γ : Type}

def bind : Program α → (α → Program β) → Program β
  | done value, rest => rest value
  | fetch key next, rest => .fetch key fun outcome => (next outcome).bind rest
  | compileRules spec value next, rest =>
    .compileRules spec value fun rules => (next rules).bind rest
  | compileNames spec value next, rest =>
    .compileNames spec value fun table => (next table).bind rest

instance : Monad Program where
  pure := done
  bind := bind

@[simp] theorem done_bind (value : α) (rest : α → Program β) :
    (done value).bind rest = rest value := rfl

@[simp] theorem pure_eq (value : α) : (pure value : Program α) = done value := rfl

@[simp] theorem bind_eq (program : Program α) (rest : α → Program β) :
    (program >>= rest) = program.bind rest := rfl

@[simp] theorem bind_done (program : Program α) : program.bind done = program := by
  induction program with
  | done value => rfl
  | fetch key next ih => simp only [bind]; congr 1; funext outcome; exact ih outcome
  | compileRules spec value next ih => simp only [bind]; congr 1; funext rules; exact ih rules
  | compileNames spec value next ih => simp only [bind]; congr 1; funext table; exact ih table

theorem bind_assoc (program : Program α) (first : α → Program β) (second : β → Program γ) :
    (program.bind first).bind second = program.bind fun value => (first value).bind second := by
  induction program with
  | done value => rfl
  | fetch key next ih => simp only [bind]; congr 1; funext outcome; exact ih outcome
  | compileRules spec value next ih => simp only [bind]; congr 1; funext rules; exact ih rules
  | compileNames spec value next ih => simp only [bind]; congr 1; funext table; exact ih table

end Program

end Postal
