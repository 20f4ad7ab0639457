import PaneMux.Error

/-!
# Resizing with a pause for thought

Dragging the edge of a window asks for many sizes in a row. Each pane has a slot that waits until
requests have been quiet for a while and then applies the last size alone, and not even that when
the terminal has it already.

## Main definitions

- `Debouncer.request` : ask for a size
- `Debouncer.forget` : drop what is waiting for a pane
- `Debouncer.elapse` : let time pass and apply what falls due
- `applySize` : what happens to one size that is due
-/

namespace PaneMux

/-- What happens when a size is asked of a terminal: whether the terminal took it, and the state of
    affairs after that has been made known. -/
abbrev Resizer (τ σ : Type) := τ → Geometry → σ → Bool × σ

/-- Brings a terminal to a size unless it has that size already. Tells whether it has it then. -/
def applySize {τ σ : Type} (resize : Resizer τ σ) (target : τ) (current wanted : Geometry) (s : σ) :
    Bool × σ :=
  if wanted = current then (true, s) else resize target wanted s

/-- A size that waits to be applied. -/
structure PendingResize where
  size : Geometry
  /-- when it is applied, in milliseconds of uptime -/
  due : Nat
  deriving DecidableEq, Repr

/-- The slot of a pane. -/
structure ResizeSlot (τ : Type) where
  pane : Nat
  target : τ
  /-- the size the terminal has as far as the slot knows -/
  applied : Geometry
  pending : Option PendingResize
  deriving DecidableEq, Repr

/-- The slots of all panes. -/
structure Debouncer (τ : Type) where
  /-- how long requests must be quiet, in milliseconds -/
  pause : Nat
  slots : List (ResizeSlot τ) := []
  deriving Repr

namespace Debouncer

variable {τ σ : Type}

/-- The slot of a pane. -/
def find? (d : Debouncer τ) (pane : Nat) : Option (ResizeSlot τ) :=
  d.slots.find? (·.pane = pane)

/-- Changes the slot of a pane. -/
def modify (d : Debouncer τ) (pane : Nat) (f : ResizeSlot τ → ResizeSlot τ) : Debouncer τ :=
  { d with slots := d.slots.map fun s => if s.pane = pane then f s else s }

/-- Asks for a size, in place of one that is waiting. A pane without a slot gets one, which takes
    `applied` for the size its terminal has. -/
def request (d : Debouncer τ) (now pane : Nat) (target : τ) (applied wanted : Geometry) :
    Debouncer τ :=
  let pending := some ⟨wanted, now + d.pause⟩
  match d.find? pane with
  | some _ => d.modify pane fun s => { s with pending }
  | none => { d with slots := d.slots ++ [{ pane, target, applied, pending }] }

/-- Drops the slot of a pane and what is waiting in it. -/
def forget (d : Debouncer τ) (pane : Nat) : Debouncer τ :=
  { d with slots := d.slots.filter (·.pane ≠ pane) }

/-- The number of slots. -/
def active (d : Debouncer τ) : Nat := d.slots.length

/-- A slot with what is waiting in it. -/
def waiting (d : Debouncer τ) : List (ResizeSlot τ × PendingResize) :=
  d.slots.filterMap fun s => s.pending.map fun p => (s, p)

/-- The earlier of two sizes that are due; the first one of two at the same time. -/
def earlier (best : Option (ResizeSlot τ × PendingResize)) (next : ResizeSlot τ × PendingResize) :
    Option (ResizeSlot τ × PendingResize) :=
  match best with
  | some b => if next.2.due < b.2.due then some next else some b
  | none => some next

/-- What falls due first, no later than a time. -/
def due? (d : Debouncer τ) (until_ : Nat) : Option (ResizeSlot τ × PendingResize) :=
  (d.waiting.filter (·.2.due ≤ until_)).foldl earlier none

/-- What was waiting for a pane has been dealt with. A size the terminal took is the size it has
    from then on. -/
def settle (d : Debouncer τ) (pane : Nat) (size : Geometry) (taken : Bool) : Debouncer τ :=
  d.modify pane fun s =>
    { s with pending := none, applied := if taken then size else s.applied }

/-- Applies what falls due first. -/
def fire (resize : Resizer τ σ) (slot : ResizeSlot τ) (p : PendingResize) (d : Debouncer τ) (s : σ) :
    Debouncer τ × σ :=
  let (taken, s) := applySize resize slot.target slot.applied p.size s
  (d.settle slot.pane p.size taken, s)

/-- Lets time pass and applies what falls due on the way, in order. Each slot falls due once at
    most. -/
def elapse (resize : Resizer τ σ) (until_ : Nat) (d : Debouncer τ) (s : σ) : Debouncer τ × σ :=
  go d.slots.length d s
where
  go : Nat → Debouncer τ → σ → Debouncer τ × σ
  | 0, d, s => (d, s)
  | n + 1, d, s =>
    match d.due? until_ with
    | none => (d, s)
    | some (slot, p) =>
      let (d, s) := fire resize slot p d s
      go n d s

end Debouncer

end PaneMux
