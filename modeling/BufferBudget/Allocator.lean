import BufferBudget.Source.Bypass
import BufferBudget.Source.Clearing
import BufferBudget.Source.Guaranteed
import BufferBudget.Source.Heap
import BufferBudget.Source.Locked
import BufferBudget.Source.Probe
import BufferBudget.Source.Tallied
import BufferBudget.Source.Tracked

/-!
# Allocators

An allocator is a stack of layers over a heap.  Its source is built from the
heap upwards: each layer makes a source from the source below it, and every
call on it is noted.

Two allocators may share all of a stack, or only accounts that their layers
name; nothing else is shared.
-/

namespace BufferBudget

/-- What a layer makes of the source below it. -/
def Layer.over (layer : Layer) (below : Source) : Source :=
  match layer with
  | .mediated mediator => Mediated.source mediator below
  | .clearing => Clearing.source below
  | .bypass mediator amount => Bypass.source mediator amount below
  | .tallied tally => Tallied.source tally below
  | .tracked lineage enforcing => Tracked.source lineage enforcing below
  | .locked lock => Locked.source lock below
  | .relay => below
  | .guaranteed mediator amount => Guaranteed.source mediator amount below
  | .probe number screen => Probe.source number screen below

/-- A stack of layers, the top one first, over a heap. -/
structure Allocator where
  layers : List Layer
  heap : Heap

namespace Allocator

/-- The heap alone. -/
def onHeap (heap : Heap) : Allocator :=
  { layers := [], heap }

/-- An allocator with one layer more. -/
def add (allocator : Allocator) (layer : Layer) : Allocator :=
  { allocator with layers := layer :: allocator.layers }

/-- The source that a list of layers makes over a heap. -/
def sourceOf (heap : Heap) : List Layer → Source
  | [] => heap.source.noting .heap
  | layer :: below => (layer.over (sourceOf heap below)).noting (.layer layer)

/-- The source that an allocator is. -/
def source (allocator : Allocator) : Source :=
  sourceOf allocator.heap allocator.layers

@[simp]
theorem source_onHeap (heap : Heap) :
    (onHeap heap).source = heap.source.noting .heap :=
  rfl

@[simp]
theorem source_add (allocator : Allocator) (layer : Layer) :
    (allocator.add layer).source =
      (layer.over allocator.source).noting (.layer layer) :=
  rfl

/-- How much an allocator reports to have left. -/
def available (allocator : Allocator) (world : World) : Except Fault Nat :=
  allocator.source.available world

/-- The allocator under the top layer, if there is a layer. -/
def below? (allocator : Allocator) : Option Allocator :=
  match allocator.layers with
  | [] => none
  | _ :: rest => some { allocator with layers := rest }

@[simp]
theorem below?_add (allocator : Allocator) (layer : Layer) :
    (allocator.add layer).below? = some allocator :=
  rfl

/-- How many layers satisfy a condition. -/
def countLayers (allocator : Allocator) (condition : Layer → Bool) : Nat :=
  allocator.layers.countP condition

end Allocator

end BufferBudget
