namespace UdpBench

/-- Pairs off equal characters of two texts that stand at most `reach` places apart, each with the
first one that is left. Each pair is given by its two positions. -/
def commonPairs (reach : Nat) (a b : List Char) : List (Nat × Nat) :=
  a.zipIdx.foldl (fun pairs (c, i) =>
    match b.zipIdx.find? fun (d, j) =>
        c == d && i ≤ j + reach && j ≤ i + reach && pairs.all fun (_, k) => k != j with
    | some (_, j) => pairs ++ [(i, j)]
    | none => pairs) []

/-- How alike two texts are by Jaro's measure, from 0 to 1: the mean of the shares of common
characters in both texts and of the share of these that keep their order. -/
def jaro (a b : List Char) : Float :=
  if a.isEmpty && b.isEmpty then 1
  else
    let pairs := commonPairs (max a.length b.length / 2 - 1) a b
    let inOrderOfB := (List.range b.length).filter fun j => pairs.any fun (_, k) => k == j
    let moved := (pairs.zip inOrderOfB).countP fun ((i, _), j) => a[i]? != b[j]?
    if pairs.isEmpty then 0
    else
      let common := Float.ofNat pairs.length
      (common / Float.ofNat a.length + common / Float.ofNat b.length
        + Float.ofNat (pairs.length - moved / 2) / common) / 3

/-- The most similar of some names, the last one of equally similar ones. Below a certain similarity
there is none. -/
def mostSimilar (name : String) (names : List String) : Option String :=
  let rated := names.map fun other => (other, jaro name.toList other.toList)
  let similar := rated.filter fun (_, score) => 0.7 < score
  (similar.foldl (fun best (other, score) =>
    match best with
    | some (_, high) => if score < high then best else some (other, score)
    | none => some (other, score)) none).map Prod.fst

end UdpBench
