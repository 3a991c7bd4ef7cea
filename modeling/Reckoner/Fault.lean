import Reckoner.Number.Decimal

/-! # Faults

Why an entry has no value. A fault records its cause; the words for it are found
only by `Fault.message`. -/

namespace Reckoner

/-- Outcomes can be compared, so that what a computation gives can be decided. -/
instance decidableEqExcept {ε α : Type} [DecidableEq ε] [DecidableEq α] :
    DecidableEq (Except ε α)
  | .ok a, .ok b => decidable_of_iff (a = b) (by simp)
  | .error e, .error f => decidable_of_iff (e = f) (by simp)
  | .ok _, .error _ => isFalse nofun
  | .error _, .ok _ => isFalse nofun

inductive LexicalFault where
  | number
  | negativeNumber
  | invalidCharacter (c : Char)
deriving DecidableEq

inductive Applied where
  | function (name : List Char)
  | operator (symbol : Char)
deriving DecidableEq

inductive DomainFault where
  | zeroToNegativePower
  | rootOfNegative
  | beyondBinary64
  | unrepresentablePower (base exponent : Rat)
  | refused (reason : String)
deriving DecidableEq

/-- Why an entry has no value. The words of a fault follow from its cause: `lexical`,
`missingOperand` and `unknownOperator` cannot hold an arbitrary text. An operator or a guard
that declines in words of its own does so with `domain (.refused reason)`, whose message is
the reason as it stands. -/
inductive Fault where
  | emptyEntry
  | lexical (cause : LexicalFault)
  | unbalancedParentheses
  | missingOperand (of : Applied)
  | unknownOperator (symbol : Char)
  | unknownFunction (name : List Char)
  | invalidExpression
  | divisionByZero
  | domain (cause : DomainFault)
deriving DecidableEq

def LexicalFault.message : LexicalFault → String
  | .number => "Nombre mal formé."
  | .negativeNumber => "Un nombre négatif est mal formé."
  | .invalidCharacter c => "Caractère invalide: '" ++ String.singleton c ++ "'."

def Applied.describe : Applied → String
  | .function name => "la fonction '" ++ String.ofList name ++ "'"
  | .operator symbol => "l'opérateur '" ++ String.singleton symbol ++ "'"

def DomainFault.message : DomainFault → String
  | .zeroToNegativePower => "zéro élevé à une puissance négative."
  | .rootOfNegative => "sqrt sur nombre négatif."
  | .beyondBinary64 => "nombre hors de portée du calcul flottant."
  | .unrepresentablePower base exponent =>
    "puissance non représentable: " ++
      String.ofList (Decimal.write Decimal.defaultPlaces base) ++ " ^ " ++
      String.ofList (Decimal.write Decimal.defaultPlaces exponent)
  | .refused reason => reason

def Fault.message : Fault → String
  | .emptyEntry => "L'expression ne peut pas être vide."
  | .lexical cause => cause.message
  | .unbalancedParentheses => "Parenthèses déséquilibrées."
  | .missingOperand of => "Argument manquant pour " ++ of.describe ++ "."
  | .unknownOperator symbol => "Opérateur inconnu: " ++ String.singleton symbol
  | .unknownFunction name => "Fonction inconnue: " ++ String.ofList name
  | .invalidExpression => "Expression invalide."
  | .divisionByZero => "Division par zéro interdite."
  | .domain cause => cause.message

end Reckoner
