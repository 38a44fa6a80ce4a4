import GraphQLTree.Navigation.Coordinate
import GraphQLTree.Navigation.Walk

namespace GraphQLTree

inductive Moment
  | enter
  | leave
deriving DecidableEq, Repr

structure ScriptRule where
  moment : Moment
  pattern : KindPattern
  nth : Option Nat
  flow : Flow

structure ScriptEvent where
  moment : Moment
  depth : Nat
  place : Placed
  onTop : Bool
  coordinate : Option (Except TreeError SchemaCoordinate)

namespace ScriptRule

def applies (r : ScriptRule) (moment : Moment) (n : Node) : Bool :=
  r.moment == moment && r.pattern.admits n

def fires (r : ScriptRule) (count : Nat) : Bool :=
  match r.nth with
  | none => true
  | some n => n == count

end ScriptRule

structure ScriptState where
  rules : List (ScriptRule × Nat)
  events : List ScriptEvent

namespace ScriptState

def start (rules : List ScriptRule) : ScriptState :=
  ⟨rules.map (·, 0), []⟩

def answer (s : ScriptState) (moment : Moment) (n : Node) : Flow :=
  let firing := s.rules.filter fun (r, count) => r.applies moment n && r.fires count && r.flow != .next
  match firing with
  | [] => .next
  | (r, _) :: _ => r.flow

def count (s : ScriptState) (moment : Moment) (n : Node) : List (ScriptRule × Nat) :=
  s.rules.map fun (r, count) => if r.applies moment n then (r, count + 1) else (r, count)

def call (coordinates : Bool) (moment : Moment) (p : Placed) (nav : Navigator) (s : ScriptState) :
    Flow × ScriptState :=
  let event : ScriptEvent :=
    { moment
      depth := nav.size
      place := p
      onTop := (nav.parent?.map (·.same p)).getD false
      coordinate := if coordinates && moment == .enter then some nav.schemaCoordinate else none }
  (s.answer moment p.node, ⟨s.count moment p.node, event :: s.events⟩)

end ScriptState

def Visitor.scripted (coordinates : Bool) : Visitor ScriptState :=
  ⟨ScriptState.call coordinates .enter, ScriptState.call coordinates .leave⟩

end GraphQLTree
