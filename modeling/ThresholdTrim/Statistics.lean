import ThresholdTrim.Device

/-!
# Statistics of samples

The level of a batch is its median, and a batch has an even number of samples more often than not.
The upper of the two middle samples is taken and never their average: a level is then always a value
the converter reported, and a monotone change of the samples moves the median with them.

A raw batch holds stray samples. They are dropped by their distance from a centre, measured in
millivolts at the channel input, before any mean or spread is taken. Readings at several register
values become a line, fitted by least squares.
-/

namespace ThresholdTrim

open Scalar

variable {R : Type} [Scalar R]

namespace Statistics

/-! ## Mean and spread

Sums run from the first element on, so that the sum of one value is that value, sign of zero
included. -/

def sum : List R → R
  | [] => ofCount 0
  | x :: xs => xs.foldl (· + ·) x

/-- Arithmetic mean; zero over zero for no values. -/
def mean (xs : List R) : R := sum xs / ofCount xs.length

/-- Root of the mean square less the squared mean. Cancellation can leave a tiny negative
variance, which counts as none. -/
def rms (xs : List R) (mean : R) : R :=
  sqrt (larger (sum (xs.map fun x ↦ x * x) / ofCount xs.length - mean * mean) (ofCount 0))

/-- A batch of counts as scalars. -/
def ofCounts (samples : List Nat) : List R := samples.map ofCount

/-! ## Order statistics -/

/-- Element at index `length / 2` of the list in ascending order. -/
def medianBy {α : Type} (le : α → α → Bool) (xs : List α) : Option α :=
  (xs.mergeSort le)[xs.length / 2]?

/-- Upper median of a batch of converter counts. -/
def median (samples : List Nat) : Option Nat := medianBy (· ≤ ·) samples

/-- Upper median of scalars. -/
def scalarMedian (xs : List R) : Option R :=
  medianBy (fun a b ↦ !Scalar.lt b a) xs

/-! ### Medians of something -/

section

variable {α : Type} {le : α → α → Bool} {xs : List α} {x : α}

/-- The index of a median lies within the list, unless the list is empty. -/
theorem medianBy_eq_none_iff : medianBy le xs = none ↔ xs = [] := by
  have hindex : medianBy le xs = none ↔ (xs.mergeSort le).length ≤ xs.length / 2 :=
    List.getElem?_eq_none_iff
  rw [hindex, List.length_mergeSort, ← List.length_eq_zero_iff]
  omega

theorem exists_medianBy (h : xs ≠ []) : ∃ x, medianBy le xs = some x :=
  Option.ne_none_iff_exists'.mp (mt medianBy_eq_none_iff.mp h)

theorem mem_of_medianBy (h : medianBy le xs = some x) : x ∈ xs :=
  List.mem_mergeSort.mp (List.mem_of_getElem? h)

end

/-- Every batch with samples has a median. -/
theorem exists_median {batch : List Nat} (h : batch ≠ []) : ∃ count, median batch = some count :=
  exists_medianBy h

theorem mem_of_median {batch : List Nat} {count : Nat} (h : median batch = some count) :
    count ∈ batch :=
  mem_of_medianBy h

theorem exists_scalarMedian {xs : List R} (h : xs ≠ []) :
    ∃ x, scalarMedian xs = some x :=
  exists_medianBy h

theorem mem_of_scalarMedian {xs : List R} {x : R}
    (h : scalarMedian xs = some x) : x ∈ xs :=
  mem_of_medianBy h

/-! ### Most frequent value -/

/-- The better of the best run so far and the next one: only a longer run takes over. -/
def longerRun (best : Option (Int × Nat)) (run : List Int) : Option (Int × Nat) :=
  match run, best with
  | [], _ => best
  | v :: _, none => some (v, run.length)
  | v :: _, some (_, n) => if n < run.length then some (v, run.length) else best

/-- Smallest of the most frequent values: runs of equal neighbours in ascending order, the first
longest of them. -/
def mode (xs : List Int) : Option Int :=
  (((xs.mergeSort (· ≤ ·)).splitBy (· == ·)).foldl longerRun none).map (·.1)

/-! ## Batches -/

/-- Whether a sample lies strictly closer than `cutoff` millivolts to `center`. -/
def isClose (center cutoff : R) (flavor : Flavor) (sample : Nat) : Bool :=
  lt (abs (flavor.toMillivolts (ofCount sample) - flavor.toMillivolts center)) cutoff

/-- The samples strictly closer than `cutoff` millivolts to `center`, in order. -/
def prune (samples : List Nat) (center cutoff : R) (flavor : Flavor) : List Nat :=
  samples.filter (isClose center cutoff flavor)

structure BatchSummary (R : Type) where
  median : R
  mean : R
  rms : R

/-- Median, mean and spread of a batch, none for an empty one. -/
def summarize (samples : List Nat) : Option (BatchSummary R) :=
  (Statistics.median samples).map fun m ↦
    let center := mean (ofCounts samples)
    ⟨ofCount m, center, Statistics.rms (ofCounts samples) center⟩

end Statistics

/-! ## Straight lines

The threshold responds to its register along a line. The line is fitted through readings about their
means, and inverted to find the register value for a level. -/

/-- Why no usable line comes out of a set of points. -/
inductive FitFault
  | lengthsDiffer
  | fewerThanTwo
  /-- All abscissae agree. -/
  | noVariance
  /-- A line that cannot be inverted at the level asked for. -/
  | flat
  deriving DecidableEq

def FitFault.message : FitFault → String
  | .lengthsDiffer => "x and y lengths differ"
  | .fewerThanTwo => "fewer than two points"
  | .noVariance => "no variance in x"
  | .flat => "flat threshold response"

/-- The line `y = slope * x + intercept`. -/
structure Line (R : Type) where
  slope : R
  intercept : R
  deriving DecidableEq

namespace Line

open Statistics

def eval (line : Line R) (x : R) : R := line.slope * x + line.intercept

/-- Abscissa at which the line reaches `y`. -/
def invert (line : Line R) (y : R) : R := (y - line.intercept) / line.slope

/-- Spread of the abscissae up to which a set of points counts as vertical: `2⁻⁵²`. -/
def minVariance : R := fraction 1 4503599627370496

/-- Sums of `(x - mx) * (y - my)` and `(x - mx) * (x - mx)` over the points. -/
private def centredSums (mx my : R) (points : List (R × R)) : R × R :=
  points.foldl
    (fun sums p ↦ (sums.1 + (p.1 - mx) * (p.2 - my), sums.2 + (p.1 - mx) * (p.1 - mx)))
    (ofCount 0, ofCount 0)

/-- Least-squares line through the points `(xs i, ys i)`. -/
def fit (xs ys : List R) : Except FitFault (Line R) :=
  if xs.length ≠ ys.length then .error .lengthsDiffer
  else if xs.length < 2 then .error .fewerThanTwo
  else
    let mx := mean xs
    let my := mean ys
    let (sxy, sxx) := centredSums mx my (xs.zip ys)
    if !lt minVariance sxx then .error .noVariance
    else
      let slope := sxy / sxx
      .ok ⟨slope, my - slope * mx⟩

end Line

end ThresholdTrim
