import Reckoner.Fault
import Reckoner.Text.Quoted
import Reckoner.Token

/-! # The journal

What a computation notes on its way, and computations that keep such notes. The
notes are values like any other; nothing is written while computing. -/

namespace Reckoner

inductive Level where
  | trace
  | debug
  | info
  | warn
deriving DecidableEq

def Level.name : Level → String
  | .trace => "TRACE"
  | .debug => "DEBUG"
  | .info => "INFO"
  | .warn => "WARN"

inductive Record where
  | scanned (tokens : List Token)
  | arranged (tokens : List Token)
  | called (name : List Char) (argument value : Rat)
  | combined (symbol : Char) (left right value : Rat)
  | refused (entry : List Char) (fault : Fault)
  | sessionEnded
deriving DecidableEq

namespace Record

def level : Record → Level
  | scanned _ | arranged _ => .debug
  | called .. | combined .. => .trace
  | refused .. => .warn
  | sessionEnded => .info

def message : Record → String
  | scanned tokens => "jetons: " ++ String.ofList (Token.line tokens)
  | arranged tokens => "rpn: " ++ String.ofList (Token.line tokens)
  | called name argument value =>
    String.ofList (name ++ '(' :: Fraction.write argument ++ [')', ' ', '=', ' '] ++
      Fraction.write value)
  | combined symbol left right value =>
    String.ofList (Fraction.write left ++ [' ', symbol, ' '] ++ Fraction.write right ++
      [' ', '=', ' '] ++ Fraction.write value)
  | refused entry fault =>
    "évaluation refusée pour " ++ String.ofList (Text.quote '"' entry) ++ ": " ++ fault.message
  | sessionEnded => "fin de la boucle console"

end Record

/-- The outcome of a computation together with its notes, oldest first. Notes
made before a fault are kept. -/
structure Journaled (α : Type) where
  records : List Record
  outcome : Except Fault α

namespace Journaled

/-- A computation that makes no notes. -/
def ofExcept {α : Type} (outcome : Except Fault α) : Journaled α := ⟨[], outcome⟩

def fault {α : Type} (f : Fault) : Journaled α := ⟨[], .error f⟩

def note (record : Record) : Journaled Unit := ⟨[record], .ok ()⟩

protected def bind {α β : Type} (x : Journaled α) (f : α → Journaled β) : Journaled β :=
  match x.outcome with
  | .ok a =>
    let y := f a
    ⟨x.records ++ y.records, y.outcome⟩
  | .error e => ⟨x.records, .error e⟩

instance : Monad Journaled where
  pure a := ⟨[], .ok a⟩
  bind := Journaled.bind

@[simp] theorem pure_eq {α : Type} (a : α) : (pure a : Journaled α) = ⟨[], .ok a⟩ := rfl

theorem bind_of_ok {α β : Type} {x : Journaled α} {a : α} (h : x.outcome = .ok a)
    (f : α → Journaled β) :
    x >>= f = ⟨x.records ++ (f a).records, (f a).outcome⟩ := by
  change Journaled.bind x f = _
  simp [Journaled.bind, h]

theorem bind_of_error {α β : Type} {x : Journaled α} {e : Fault} (h : x.outcome = .error e)
    (f : α → Journaled β) : x >>= f = ⟨x.records, .error e⟩ := by
  change Journaled.bind x f = _
  simp [Journaled.bind, h]

private theorem bind_pure_outcome {α : Type} (x : Journaled α) :
    Journaled.bind x (fun a => ⟨[], .ok a⟩) = x := by
  obtain ⟨records, outcome⟩ := x
  cases outcome <;> simp [Journaled.bind]

private theorem bind_bind {α β γ : Type} (x : Journaled α) (f : α → Journaled β)
    (g : β → Journaled γ) :
    (x.bind f).bind g = x.bind fun a => (f a).bind g := by
  obtain ⟨records, outcome⟩ := x
  cases outcome with
  | error e => rfl
  | ok a =>
    simp only [Journaled.bind]
    cases (f a).outcome <;> simp

instance : LawfulMonad Journaled :=
  LawfulMonad.mk' Journaled (fun x => bind_pure_outcome x) (fun _ _ => by rfl) bind_bind

/-- The outcomes of a sequence of computations do not depend on their notes. -/
theorem outcome_bind {α β : Type} (x : Journaled α) (f : α → Journaled β) :
    (x >>= f).outcome = x.outcome >>= fun a => (f a).outcome := by
  cases h : x.outcome with
  | ok a => rw [bind_of_ok h]; rfl
  | error e => rw [bind_of_error h]; rfl

theorem bind_congr {α β : Type} {x : Journaled α} {f g : α → Journaled β}
    (h : ∀ a, x.outcome = .ok a → f a = g a) : x >>= f = x >>= g := by
  cases hx : x.outcome with
  | ok a => rw [bind_of_ok hx, bind_of_ok hx, h a hx]
  | error e => rw [bind_of_error hx, bind_of_error hx]

end Journaled

end Reckoner
