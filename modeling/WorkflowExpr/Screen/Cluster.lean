import WorkflowExpr.Screen.Cell

/-!
# Clusters

A text is cut between its clusters only. A cluster is a character that takes cells, with all that is
put on it or joined to it.
-/

namespace WorkflowExpr.Screen

/-- Characters that stay together, and the number of their cells. -/
structure Cluster where
  text : List Char
  cells : Nat
deriving DecidableEq

/-- The clusters of the front part of a text, the last one first, and the character that colour may
be asked for. -/
structure Clustering where
  clusters : List Cluster
  last? : Option Char

namespace Clustering

/-- The clusters of an empty text. -/
def empty : Clustering :=
  ⟨[], none⟩

/-- Puts characters on the last cluster, which gives it more cells. -/
def put (s : Clustering) (cs : List Char) (more : Nat) : Clustering :=
  match s.clusters with
  | [] => ⟨[⟨cs, 0⟩], s.last?⟩
  | cluster :: before =>
    ⟨⟨cluster.text ++ cs, cluster.cells + more⟩ :: before, if more = 0 then s.last? else none⟩

/-- Goes on by a character. -/
def add (s : Clustering) (c : Char) : Clustering :=
  if c = inColour then s.put [c] (cellsAdded s.last?)
  else if cells c = 0 then s.put [c] 0
  else ⟨⟨[c], cells c⟩ :: s.clusters, some c⟩

/-- Goes on by a text. A joiner takes the next character with it, unless it is the first one. -/
def addAll (s : Clustering) : List Char → Clustering
  | [] => s
  | [c] => s.add c
  | c :: d :: rest =>
    if c = joiner ∧ s.clusters ≠ [] then (s.put [c, d] 0).addAll rest
    else (s.add c).addAll (d :: rest)

end Clustering

/-- The clusters of a text. -/
def clustersOf (cs : List Char) : List Cluster :=
  (Clustering.empty.addAll cs).clusters.reverse

/-- The text of clusters up to a number of cells. A cluster that is cut in two leaves spaces. -/
def cutTo : Nat → List Cluster → List Char
  | 0, _ => []
  | room, [] => List.replicate room ' '
  | room, cluster :: rest =>
    if cluster.cells ≤ room then cluster.text ++ cutTo (room - cluster.cells) rest
    else List.replicate room ' '

/-- A text cut or filled with spaces to a number of cells. -/
def fit (room : Nat) (cs : List Char) : List Char :=
  if width cs ≤ room then cs ++ List.replicate (room - width cs) ' ' else cutTo room (clustersOf cs)

end WorkflowExpr.Screen
