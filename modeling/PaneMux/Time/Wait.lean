/-!
# Waiting

Time that passes by the millisecond, for as long as it takes or for a time that is given.
-/

namespace PaneMux

/-- Lets time pass until a question has an answer, but no longer than some milliseconds. -/
def waitFor {σ α : Type} (tick : σ → σ) (ask : σ → Option α × σ) : Nat → σ → Option α × σ
  | 0, s => ask s
  | n + 1, s =>
    match ask s with
    | (some a, s) => (some a, s)
    | (none, s) => waitFor tick ask n (tick s)

/-- Lets some milliseconds pass. -/
def sleepFor {σ : Type} (tick : σ → σ) : Nat → σ → σ
  | 0, s => s
  | n + 1, s => sleepFor tick n (tick s)

end PaneMux
