import Colloquy.Proofs.Dataset.Layout
import Colloquy.Proofs.Random.Keys
import Colloquy.Proofs.Random.Recurrence

/-!
# Seeds that replay one another

The values of a seed's stream tell the state in which its generator starts, so that two seeds replay one
another exactly if their generators are the same. A seed and its negative are. There are others, but none
among seeds of moderate size that are near one another, as the rows of an entry are.
-/

set_option autoImplicit false

namespace Colloquy.Random

/-- The streams of two seeds give the same values for ever. -/
def Replays (seed seed' : Int) : Prop :=
  ∀ before, (Stream.ofSource (.seeded seed)).nth before = (Stream.ofSource (.seeded seed')).nth before

open Twister (sequence temper)

theorem Twister.eq_of_words {twister twister' : Twister} (words : twister.words = twister'.words)
    (used : twister.used = twister'.used) : twister = twister' := by
  cases twister
  cases twister'
  exact congrArg₂ Twister.mk words used

theorem Twister.standsAt_start {twister : Twister} (used : twister.used = Twister.size) :
    Twister.StandsAt twister.words Twister.size twister :=
  ⟨0, Twister.size, Nat.le_refl _, Twister.eq_of_words rfl used, by rw [Nat.mul_zero, Nat.zero_add]⟩

theorem nth_seeded (seed : Int) (before : Nat) :
    (Stream.ofSource (.seeded seed)).nth before =
      Twister.fraction (temper (sequence (Twister.ofSeed seed).words (Twister.size + 2 * before)))
        (temper (sequence (Twister.ofSeed seed).words (Twister.size + 2 * before + 1))) := by
  have start : (Stream.ofSource (.seeded seed)).twister = Twister.ofSeed seed := by
    rw [Stream.ofSource, Source.start]
  have used := Twister.used_ofSeed seed
  rw [← start] at used ⊢
  exact Stream.nth_of_standsAt rfl (Twister.standsAt_start used) before

theorem Replays.shows {seed seed' : Int} (replays : Replays seed seed') {place : Nat}
    (later : Twister.size ≤ place) :
    temper (sequence (Twister.ofSeed seed).words place) >>> 6 =
      temper (sequence (Twister.ofSeed seed').words place) >>> 6 := by
  obtain ⟨before, drawn⟩ : ∃ before, place = Twister.size + 2 * before ∨
      place = Twister.size + 2 * before + 1 := ⟨(place - Twister.size) / 2, by omega⟩
  have both := replays before
  rw [nth_seeded, nth_seeded] at both
  obtain ⟨first, second⟩ := Twister.fraction_injective both
  rcases drawn with rfl | rfl
  · exact first
  · exact second

/-- The values of a stream tell the state in which its generator starts. -/
theorem replays_iff_ofSeed_eq (seed seed' : Int) :
    Replays seed seed' ↔ Twister.ofSeed seed = Twister.ofSeed seed' := by
  refine ⟨fun replays => ?_, fun same before => by rw [nth_seeded, nth_seeded, same]⟩
  have start (seed : Int) {place : Nat} (inside : place < Twister.size) :
      sequence (Twister.ofSeed seed).words place = (Twister.ofSeed seed).words.getD place 0 := by
    have block := Twister.sequence_block (Twister.ofSeed seed).words 0 inside
    rwa [Nat.mul_zero, Nat.zero_add] at block
  have whole := Twister.size_words_ofSeed seed
  have whole' := Twister.size_words_ofSeed seed'
  obtain ⟨_, later⟩ := (Twister.recurs_sequence whole).eq_of_shown
    (Twister.recurs_sequence whole') fun _ => replays.shows
  have words (place : Nat) (inside : place < Twister.size) :
      (Twister.ofSeed seed).words.getD place 0 = (Twister.ofSeed seed').words.getD place 0 := by
    rcases Nat.eq_zero_or_pos place with rfl | positive
    · rw [Twister.first_ofSeed, Twister.first_ofSeed]
    · rw [← start seed inside, ← start seed' inside, later place positive]
  refine Twister.eq_of_words ?_ ((Twister.used_ofSeed seed).trans (Twister.used_ofSeed seed').symm)
  refine Array.ext (whole.trans whole'.symm) fun place inside inside' => ?_
  have same := words place (whole ▸ inside)
  rwa [Array.getD_eq_getD_getElem?, Array.getD_eq_getD_getElem?, Array.getElem?_eq_getElem inside,
    Array.getElem?_eq_getElem inside', Option.getD_some, Option.getD_some] at same

theorem length_keyWords_of_lt {number bound : Nat} (positive : 0 < bound)
    (bounded : number < wordCount ^ bound) : (keyWords number).length ≤ bound := by
  obtain ⟨before, rfl⟩ := Nat.exists_eq_succ_of_ne_zero (Nat.ne_of_gt positive)
  exact (length_keyWords_le_iff number before).2 bounded

/-- Among seeds of moderate size that are near one another only a seed and its negative replay one
another. -/
theorem replays_iff_of_near {seed seed' : Int} (moderate : seed.natAbs < wordCount ^ 622)
    (moderate' : seed'.natAbs < wordCount ^ 622)
    (near : seed.natAbs < seed'.natAbs + wordCount) (near' : seed'.natAbs < seed.natAbs + wordCount) :
    Replays seed seed' ↔ seed.natAbs = seed'.natAbs :=
  (replays_iff_ofSeed_eq seed seed').trans (Twister.ofSeed_eq_iff (length_keyWords_of_lt (by decide) moderate)
    (length_keyWords_of_lt (by decide) moderate') (.inr ⟨near, near'⟩))

/-- The seeds of two rows of an entry are as far apart as the rows. -/
theorem seed_sub_of_same_entry {entries : List Entry} {baseSeed : Option Int} {first second : RowTask}
    (member : first ∈ tasksOf entries baseSeed) (member' : second ∈ tasksOf entries baseSeed)
    (same : first.entry = second.entry) {seed seed' : Int} (seeded : first.seed = some seed)
    (seeded' : second.seed = some seed') :
    seed - seed' = (first.index : Int) - (second.index : Int) := by
  obtain ⟨position, entry, offset, here, _, rfl⟩ := exists_of_mem_tasksFrom member
  obtain ⟨position', entry', offset', here', _, rfl⟩ := exists_of_mem_tasksFrom member'
  simp only [Entry.taskAt, Nat.zero_add, Option.map_eq_some_iff] at same seeded seeded' ⊢
  subst same
  obtain rfl : entry = entry' := Option.some.inj (here.symm.trans here')
  obtain ⟨start, given, rfl⟩ := seeded
  obtain ⟨start', given', rfl⟩ := seeded'
  obtain rfl : start = start' := Option.some.inj (given.symm.trans given')
  omega

/-- Seeds and their streams. Two seeds give the same values for ever exactly if their generators start in
the same state. The sign of a seed does not count. Nor do all differences in size: a word greater than one,
and the number of two words of which it is the lower and one less the higher, give the same values. But of
two seeds of up to 622 words whose sizes have the same number of words, or are less than a word apart, no
other than a seed and its negative do. So two rows of an entry, unless there are as many rows between them
as a word counts, replay the same values if and only if one has the negative of the other's seed. -/
theorem replays_iff_negative (seed seed' : Int) :
    (Replays seed seed' ↔ Twister.ofSeed seed = Twister.ofSeed seed') ∧
    (seed.natAbs = seed'.natAbs → Replays seed seed') ∧
    (∀ word : Nat, 2 ≤ word → word < wordCount → seed = word →
      seed' = (word + (word - 1) * wordCount : Nat) → Replays seed seed') ∧
    (seed.natAbs < wordCount ^ 622 → seed'.natAbs < wordCount ^ 622 →
      ((keyWords seed.natAbs).length = (keyWords seed'.natAbs).length ∨
        (seed.natAbs < seed'.natAbs + wordCount ∧ seed'.natAbs < seed.natAbs + wordCount) →
        (Replays seed seed' ↔ seed.natAbs = seed'.natAbs)) ∧
      ∀ (entries : List Entry) (baseSeed : Option Int),
        ∀ first ∈ tasksOf entries baseSeed, ∀ second ∈ tasksOf entries baseSeed,
        first.seed = some seed → second.seed = some seed' →
        first.entry = second.entry → first.index ≠ second.index →
        first.index < second.index + wordCount → second.index < first.index + wordCount →
        (Replays seed seed' ↔ seed = -seed')) := by
  refine ⟨replays_iff_ofSeed_eq seed seed', fun same => ?_, ?_, fun moderate moderate' => ⟨?_, ?_⟩⟩
  · exact (replays_iff_ofSeed_eq seed seed').2 (by rw [Twister.ofSeed, Twister.ofSeed, same])
  · rintro word least inside rfl rfl
    exact (replays_iff_ofSeed_eq _ _).2 (Twister.ofSeed_doubled least inside)
  · intro near
    exact (replays_iff_ofSeed_eq seed seed').trans (Twister.ofSeed_eq_iff
      (length_keyWords_of_lt (by decide) moderate) (length_keyWords_of_lt (by decide) moderate') near)
  · intro entries baseSeed first member second member' seeded seeded' same differs near near'
    have apart := seed_sub_of_same_entry member member' same seeded seeded'
    rw [replays_iff_of_near moderate moderate' (by omega) (by omega)]
    omega

/-- Three rows whose seeds are minus one, zero and one. -/
def aroundZero : List Entry := [⟨emptyTalk, 3, some (-1)⟩]

/-- The first and the last of them replay one another; the middle one replays neither. -/
theorem replays_iff_negative_aroundZero :
    (tasksOf aroundZero none).map RowTask.seed = [some (-1), some 0, some 1] ∧
    Replays (-1) 1 ∧ ¬ Replays (-1) 0 ∧ ¬ Replays 0 1 ∧ ¬ Replays 1 2 ∧ Replays 2 4294967298 := by
  have small {seed : Int} (bounded : seed.natAbs < wordCount) : seed.natAbs < wordCount ^ 622 :=
    lt_wordCount_pow bounded (by decide)
  have row (index : Nat) (seed : Int)
      (given : (tasksOf aroundZero none)[index]? = some ⟨index, emptyTalk, some seed, 0⟩) :=
    List.mem_of_getElem? given
  have first := row 0 (-1) rfl
  have second := row 1 0 rfl
  have third := row 2 1 rfl
  obtain ⟨_, _, _, outer⟩ := replays_iff_negative (-1) 1
  obtain ⟨_, _, _, lower⟩ := replays_iff_negative (-1) 0
  obtain ⟨_, _, _, upper⟩ := replays_iff_negative 0 1
  obtain ⟨_, _, _, positive⟩ := replays_iff_negative 1 2
  obtain ⟨_, _, doubled, _⟩ := replays_iff_negative 2 4294967298
  refine ⟨rfl, ?_, ?_, ?_, ?_, ?_⟩
  · exact ((outer (small (by decide)) (small (by decide))).2 aroundZero none _ first _ third rfl rfl rfl
      (by decide) (by decide) (by decide)).2 (by decide)
  · exact mt ((lower (small (by decide)) (small (by decide))).2 aroundZero none _ first _ second rfl rfl
      rfl (by decide) (by decide) (by decide)).1 (by decide)
  · exact mt ((upper (small (by decide)) (small (by decide))).2 aroundZero none _ second _ third rfl rfl
      rfl (by decide) (by decide) (by decide)).1 (by decide)
  · exact mt ((positive (small (by decide)) (small (by decide))).1 (.inr (by decide))).1 (by decide)
  · exact doubled 2 (by decide) (by decide) rfl rfl

/-- One and minus one are different seeds, and so are two and a word more than two. -/
theorem replays_of_different_seeds :
    ((-1 : Int) ≠ 1 ∧ Replays (-1) 1) ∧ ((2 : Int) ≠ 4294967298 ∧ Replays 2 4294967298) := by
  refine ⟨⟨by decide, ?_⟩, by decide, ?_⟩
  · exact (replays_iff_ofSeed_eq _ _).2 rfl
  · exact (replays_iff_ofSeed_eq _ _).2 (Twister.ofSeed_doubled (by decide) (by decide))

end Colloquy.Random
