/-
Actions of a channel. A channel has a state of its own and acts on the world besides; a failing
action leaves both as they are at that point.
-/
import ObjectChannel.World

namespace ObjectChannel

/-- An action of a channel of type `χ` in a world over a store of type `σ`. -/
abbrev ChannelAction (χ σ α : Type) := Action (χ × World σ) α

namespace ChannelAction

variable {χ σ α : Type}

/-- The channel as it stands. -/
def this : ChannelAction χ σ χ := fun s => (.ok s.1, s)

def change (f : χ → χ) : ChannelAction χ σ Unit := .modify fun s => (f s.1, s.2)

/-- An action on the world alone. -/
def world (x : Action (World σ) α) : ChannelAction χ σ α :=
  x.zoom (·.2) fun w s => (s.1, w)

/-- An action of a channel that nobody else uses, as an action on the world. -/
def runOn (c : χ) (x : ChannelAction χ σ α) : Action (World σ) α := fun w =>
  match x (c, w) with
  | (r, (_, w)) => (r, w)

@[simp] theorem this_apply (s : χ × World σ) : (this : ChannelAction χ σ χ) s = (.ok s.1, s) := rfl

@[simp] theorem change_apply (f : χ → χ) (s : χ × World σ) :
    (change f : ChannelAction χ σ Unit) s = (.ok (), (f s.1, s.2)) := rfl

@[simp] theorem world_apply (x : Action (World σ) α) (s : χ × World σ) :
    (world x : ChannelAction χ σ α) s = ((x s.2).1, (s.1, (x s.2).2)) := rfl

end ChannelAction

end ObjectChannel
