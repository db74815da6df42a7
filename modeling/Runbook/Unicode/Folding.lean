import Runbook.Unicode.Runs

/-! # Simple case folding

Characters that differ in case only fold to one character, after Unicode 16. The table has rows of
five numbers in base 36: the first code point of a run, how many it has, the step between them, and
how far folding moves each of them up and down.
-/
namespace Runbook.Unicode

structure FoldRun where
  first : Nat
  size : Nat
  step : Nat
  up : Nat
  down : Nat

def FoldRun.contains (r : FoldRun) (code : Nat) : Bool :=
  r.first ≤ code && (code - r.first) % r.step == 0 && (code - r.first) / r.step < r.size

def FoldRun.ofNumbers : List Nat → List FoldRun
  | first :: size :: step :: up :: down :: rest => ⟨first, size, step, up, down⟩ :: ofNumbers rest
  | _ => []

def foldRuns : List FoldRun := FoldRun.ofNumbers (readNumbers (rows [
  "1t q 1 w 0 51 1 1 lj 0 5c n 1 w 0 60 7 1 w 0 74 o 2 1 0 8i 3 2 1 0 8p 8 2 1 0 96 n 2 1 0 ",
  "ag 1 1 0 3d ah 3 2 1 0 an 1 1 0 7g ap 1 1 5u 0 aq 2 2 1 0 au 1 1 5q 0 av 1 1 1 0 ax 2 1 5p 0 ",
  "az 1 1 1 0 b2 1 1 27 0 b3 1 1 5m 0 b4 1 1 5n 0 b5 1 1 1 0 b7 1 1 5p 0 b8 1 1 5r 0 ba 1 1 5v 0 ",
  "bb 1 1 5t 0 bc 1 1 1 0 bg 1 1 5v 0 bh 1 1 5x 0 bj 1 1 5y 0 bk 3 2 1 0 bq 1 1 62 0 br 1 1 1 0 ",
  "bt 1 1 62 0 bw 1 1 1 0 by 1 1 62 0 bz 1 1 1 0 c1 2 1 61 0 c3 2 2 1 0 c7 1 1 63 0 c8 1 1 1 0 ",
  "cc 1 1 1 0 ck 1 1 2 0 cl 1 1 1 0 cn 1 1 2 0 co 1 1 1 0 cq 1 1 2 0 cr 9 2 1 0 da 9 2 1 0 ",
  "dt 1 1 2 0 du 2 2 1 0 dy 1 1 0 2p dz 1 1 0 1k e0 k 2 1 0 f4 1 1 0 3m f6 9 2 1 0 fu 1 1 8bv 0 ",
  "fv 1 1 1 0 fx 1 1 0 4j fy 1 1 8bs 0 g1 1 1 1 0 g3 1 1 0 5f g4 1 1 1x 0 g5 1 1 1z 0 g6 5 2 1 0 ",
  "n9 1 1 38 0 og 2 2 1 0 om 1 1 1 0 ov 1 1 38 0 p2 1 1 12 0 p4 3 1 11 0 p8 1 1 1s 0 pa 2 1 1r 0 ",
  "pd h 1 w 0 pv 9 1 w 0 qq 1 1 1 0 r3 1 1 8 0 r4 1 1 0 u r5 1 1 0 p r9 1 1 0 f ra 1 1 0 m ",
  "rc c 2 1 0 s0 1 1 0 1i s1 1 1 0 1c s4 1 1 0 1o s5 1 1 0 1s s7 1 1 1 0 s9 1 1 0 7 sa 1 1 1 0 ",
  "sd 3 1 0 3m sg g 1 28 0 sw w 1 w 0 v4 h 2 1 0 wa r 2 1 0 xs 1 1 f 0 xt 7 2 1 0 y8 1c 2 1 0 ",
  "10x 12 1 1c 0 3a8 12 1 5ls 0 3bb 1 1 5ls 0 3bh 1 1 5ls 0 3y0 6 1 0 8 5mo 1 1 0 4su ",
  "5mp 1 1 0 4st 5mq 1 1 0 4sk 5mr 2 1 0 4si 5mt 1 1 0 4sj 5mu 1 1 0 4sc 5mv 1 1 0 4ro ",
  "5mw 1 1 r7n 0 5mx 1 1 1 0 5n4 17 1 0 2bk 5od 3 1 0 2bk 5xc 23 2 1 0 61n 1 1 0 1m 61q 1 1 0 5vj ",
  "61s 1c 2 1 0 64o 8 1 0 8 654 6 1 0 8 65k 8 1 0 8 660 8 1 0 8 66g 6 1 0 8 66x 4 2 0 8 ",
  "67c 8 1 0 8 688 8 1 0 8 68o 8 1 0 8 694 8 1 0 8 69k 2 1 0 8 69m 2 1 0 22 69o 1 1 0 9 ",
  "69q 1 1 0 5j9 6a0 4 1 0 2e 6a4 1 1 0 9 6ag 2 1 0 8 6ai 2 1 0 2s 6aw 2 1 0 8 6ay 2 1 0 34 ",
  "6b0 1 1 0 7 6bc 2 1 0 3k 6be 2 1 0 3i 6bg 1 1 0 9 6jq 1 1 0 5st 6ju 1 1 0 6gv 6jv 1 1 0 6di ",
  "6k2 1 1 s 0 6lc g 1 g 0 6mb 1 1 1 0 792 q 1 q 0 8ow 1c 1 1c 0 8rk 1 1 1 0 8rm 1 1 0 8af ",
  "8rn 1 1 0 2xy 8ro 1 1 0 89z 8rr 3 2 1 0 8rx 1 1 0 8bg 8ry 1 1 0 8al 8rz 1 1 0 8bj ",
  "8s0 1 1 0 8bi 8s2 1 1 1 0 8s5 1 1 1 0 8se 2 1 0 8cf 8sg 1e 2 1 0 8vf 2 2 1 0 8vm 1 1 1 0 ",
  "wu8 n 2 1 0 ww0 e 2 1 0 x0i 7 2 1 0 x0y v 2 1 0 x2x 2 2 1 0 x31 1 1 0 r9g x32 5 2 1 0 ",
  "x3f 1 1 1 0 x3h 1 1 0 wmg x3k 2 2 1 0 x3q a 2 1 0 x4a 1 1 0 wn8 x4b 1 1 0 wnj x4c 1 1 0 wnf ",
  "x4d 1 1 0 wn5 x4e 1 1 0 wn8 x4g 1 1 0 wlu x4h 1 1 0 wmi x4i 1 1 0 wlx x4j 1 1 ps 0 x4k 8 2 1 0 ",
  "x50 1 1 0 1c x51 1 1 0 wn7 x52 1 1 0 raw x53 2 2 1 0 x57 1 1 0 wo7 x58 1 1 1 0 x5c 1 1 1 0 ",
  "x5i 3 2 1 0 x5o 1 1 0 wu9 x6d 1 1 1 0 xv4 28 1 0 tzk 1ee9 q 1 w 0 1fcw 14 1 14 0 ",
  "1fhs 10 1 14 0 1fn4 1 2 13 0 1fn5 a 1 13 0 1fng f 1 13 0 1fnw 7 1 13 0 1fo4 2 1 13 0 ",
  "1h1c 1f 1 1s 0 1h74 m 1 w 0 1jfk w 1 w 0 20cg w 1 w 0 2olc y 1 y 0"]))

def fold (code : Nat) : Nat :=
  match foldRuns.find? (·.contains code) with
  | some r => code + r.up - r.down
  | none => code

/-- The code points that fold to the same code point as the given one. -/
def caseVariants (code : Nat) : List Nat :=
  let target := fold code
  target :: foldRuns.filterMap fun r =>
    let source := target + r.down - r.up
    if r.contains source then some source else none

/-- The code points that are folded, and those that they fold to. -/
def foldedCodes : List Nat :=
  foldRuns.flatMap fun r => (List.range r.size).flatMap fun k =>
    let code := r.first + k * r.step
    [code, code + r.up - r.down]

end Runbook.Unicode
