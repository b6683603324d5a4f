import Concordancer.Proofs.Shadowing
import Mathlib.Data.List.DropRight

/-!
# Marks of no chain

A mark names the chain of a token, and stars at its end mark the head of the chain.  Three marks
name no chain: `_`, `none` and the empty one.  They are looked for before the stars are taken
off.  A mark of no chain with stars is therefore not recognised; without its stars
it names a chain after all (`chain?_of_pushn`).  The tokens marked `_*` anywhere in a corpus are
then mates of each other (`starred_marks_form_chain`).

So the tokens in a chain that is named like a mark of no chain are those marked as its head, and
no others (`mem_chain_iff_isMarkedHead`).  Where no token is marked so, marks of no chain form no
chain and stars make no difference.
-/

namespace Concordancer

/-! ## Characters at the end of a text -/

namespace Text

theorem toList_pushn (text : String) (last : Char) (count : Nat) :
    (text.pushn last count).toList = text.toList ++ List.replicate count last := by
  rw [String.pushn_eq_repeat_push]
  induction count with
  | zero => simp [Nat.repeat]
  | succ count ih => simp [Nat.repeat, ih, List.replicate_succ']

private theorem toList_dropTrailing (last : Char) (text : String) :
    (dropTrailing last text).toList = text.toList.rdropWhile (· == last) := by
  rw [dropTrailing, String.toList_ofList, List.rdropWhile]

private theorem rdropWhile_append_replicate (last : Char) (text : List Char) (count : Nat) :
    (text ++ List.replicate count last).rdropWhile (· == last) =
      text.rdropWhile (· == last) := by
  induction count with
  | zero => rw [List.replicate_zero, List.append_nil]
  | succ count ih =>
      rw [List.replicate_succ', ← List.append_assoc, List.rdropWhile_concat_pos _ _ _ (by simp), ih]

theorem dropTrailing_pushn (last : Char) (text : String) (count : Nat) :
    dropTrailing last (text.pushn last count) = dropTrailing last text := by
  apply String.toList_inj.mp
  rw [toList_dropTrailing, toList_pushn, rdropWhile_append_replicate, toList_dropTrailing]

theorem dropTrailing_dropTrailing (last : Char) (text : String) :
    dropTrailing last (dropTrailing last text) = dropTrailing last text := by
  apply String.toList_inj.mp
  rw [toList_dropTrailing, toList_dropTrailing, List.rdropWhile_idempotent]

/-- What is dropped from the end is this character and nothing else. -/
theorem exists_eq_pushn_dropTrailing (last : Char) (text : String) :
    ∃ count, text = (dropTrailing last text).pushn last count := by
  refine ⟨(text.toList.rtakeWhile (· == last)).length, String.toList_inj.mp ?_⟩
  have hdropped : text.toList.rtakeWhile (· == last) =
      List.replicate (text.toList.rtakeWhile (· == last)).length last := by
    refine List.eq_replicate_iff.mpr ⟨rfl, fun c hc => ?_⟩
    simpa using List.mem_rtakeWhile_imp hc
  rw [toList_pushn, toList_dropTrailing, ← hdropped, List.rdropWhile_append_rtakeWhile]

end Text

/-! ## The chain that a mark names -/

namespace Token

variable {token first second : Token} {mark name : String} {stars : Nat}

/-- The token is marked as the head of a chain of this name: the mark is the name with one or
more stars. -/
def IsMarkedHead (token : Token) (name : String) : Prop :=
  ∃ stars, token.coreference = some (name.pushn '*' (stars + 1))

theorem chain?_of_coreference (hmark : token.coreference = some mark) :
    token.chain? =
      if mark ∈ noChain then none
      else if Text.dropTrailing '*' mark = "" then none
      else some (Text.dropTrailing '*' mark) := by
  simp only [chain?, hmark, Option.bind_eq_bind, Option.bind_some, String.isEmpty_iff]

theorem dropTrailing_of_mem_noChain (hmark : mark ∈ noChain) :
    Text.dropTrailing '*' mark = mark := by
  have hall : ∀ mark ∈ noChain, Text.dropTrailing '*' mark = mark := by decide +kernel
  exact hall mark hmark

theorem pushn_mem_noChain_iff : name.pushn '*' stars ∈ noChain ↔ name ∈ noChain ∧ stars = 0 := by
  constructor
  · intro hmark
    have hdropped := dropTrailing_of_mem_noChain hmark
    rw [Text.dropTrailing_pushn] at hdropped
    -- Dropping stars from the name would otherwise make it longer.
    have hstars : stars = 0 := by
      obtain ⟨count, hname⟩ := Text.exists_eq_pushn_dropTrailing '*' name
      have hlength := congrArg String.length hname
      rw [hdropped, String.length_pushn, String.length_pushn] at hlength
      omega
    subst hstars
    exact ⟨hmark, rfl⟩
  · rintro ⟨hname, rfl⟩
    exact hname

/-- Stars matter for marks of no chain only. -/
theorem chain?_of_pushn (hmark : token.coreference = some (name.pushn '*' stars)) :
    token.chain? =
      if name ∈ noChain ∧ stars = 0 then none
      else if Text.dropTrailing '*' name = "" then none
      else some (Text.dropTrailing '*' name) := by
  rw [chain?_of_coreference hmark, Text.dropTrailing_pushn]
  simp only [pushn_mem_noChain_iff]

/-- The name of a chain has no stars at its end.  If it is a mark of no chain, there were some. -/
theorem chain?_eq_some_iff :
    token.chain? = some name ↔
      name ≠ "" ∧ Text.dropTrailing '*' name = name ∧
        ∃ stars, token.coreference = some (name.pushn '*' stars) ∧
          (name ∈ noChain → 0 < stars) := by
  constructor
  · intro hchain
    cases hmark : token.coreference with
    | none => simp [chain?, hmark] at hchain
    | some mark =>
        obtain ⟨stars, hstars⟩ := Text.exists_eq_pushn_dropTrailing '*' mark
        rw [chain?_of_coreference hmark, Option.ite_none_left_eq_some,
          Option.ite_none_left_eq_some] at hchain
        obtain ⟨hnamed, hnonempty, hname⟩ := hchain
        obtain rfl := Option.some.inj hname
        refine ⟨hnonempty, Text.dropTrailing_dropTrailing '*' mark, stars, congrArg some hstars, ?_⟩
        intro hsentinel
        refine Nat.pos_of_ne_zero fun hzero => hnamed ?_
        rw [hstars, pushn_mem_noChain_iff]
        exact ⟨hsentinel, hzero⟩
  · rintro ⟨hnonempty, hname, stars, hmark, hstars⟩
    have hnamed : ¬ (name ∈ noChain ∧ stars = 0) := by
      rintro ⟨hsentinel, rfl⟩
      exact Nat.lt_irrefl 0 (hstars hsentinel)
    rw [chain?_of_pushn hmark, if_neg hnamed, hname, if_neg hnonempty]

/-- A mark of no chain is the name of the chain of those that are marked as its head. -/
theorem chain?_eq_noChain_iff (hname : name ∈ noChain) :
    token.chain? = some name ↔ name ≠ "" ∧ token.IsMarkedHead name := by
  rw [chain?_eq_some_iff]
  refine and_congr_right fun _ => ?_
  constructor
  · rintro ⟨-, stars, hmark, hstars⟩
    obtain ⟨more, rfl⟩ := Nat.exists_eq_add_one.mpr (hstars hname)
    exact ⟨more, hmark⟩
  · rintro ⟨more, hmark⟩
    exact ⟨dropTrailing_of_mem_noChain hname, more + 1, hmark, fun _ => Nat.succ_pos more⟩

/-- Marks that differ in stars only name the same chain, but for a mark of no chain and the same
with stars. -/
theorem chain?_eq_chain?_iff {others : Nat}
    (hfirst : first.coreference = some (name.pushn '*' stars))
    (hsecond : second.coreference = some (name.pushn '*' others)) :
    first.chain? = second.chain? ↔ (name ∈ noChain → name ≠ "" → (stars = 0 ↔ others = 0)) := by
  rw [chain?_of_pushn hfirst, chain?_of_pushn hsecond]
  by_cases hname : name ∈ noChain
  · rw [dropTrailing_of_mem_noChain hname]
    by_cases hempty : name = ""
    · simp [hempty]
    · by_cases hstars : stars = 0 <;> by_cases hothers : others = 0 <;>
        simp [hname, hempty, hstars, hothers]
  · simp [hname]

end Token

/-! ## The chains of a corpus -/

namespace Treebank

variable {treebank : Treebank}

/-- In the chain that is named like a mark of no chain are the rows that are marked as its head. -/
theorem mem_chain_iff_isMarkedHead {mark : String} (hmark : mark ∈ Token.noChain)
    {ref : TokenRef} :
    ref ∈ (Coreference.ofCorpus treebank.corpus).chain mark ↔
      mark ≠ "" ∧ ∃ row, treebank.StandsAt row ref ∧ row.IsMarkedHead mark := by
  rw [Coreference.mem_chain_ofCorpus, mem_mentions_iff_standsAt]
  simp only [Token.chain?_eq_noChain_iff hmark]
  tauto

/-- No row is marked as the head of a chain that is named like a mark of no chain. -/
def HeadsChainsOnly (treebank : Treebank) : Prop :=
  ∀ row ref, treebank.StandsAt row ref → ∀ mark ∈ Token.noChain, mark ≠ "" →
    ¬ row.IsMarkedHead mark

theorem HeadsChainsOnly.chain_eq_nil (hheads : treebank.HeadsChainsOnly) {mark : String}
    (hmark : mark ∈ Token.noChain) : (Coreference.ofCorpus treebank.corpus).chain mark = [] := by
  refine List.eq_nil_iff_forall_not_mem.mpr fun ref href => ?_
  obtain ⟨hnonempty, row, hrow, hmarked⟩ := (mem_chain_iff_isMarkedHead hmark).mp href
  exact hheads row ref hrow mark hmark hnonempty hmarked

/-- Then a row with a mark of no chain names no chain. -/
theorem HeadsChainsOnly.chain?_eq_none (hheads : treebank.HeadsChainsOnly) {row : Token}
    {ref : TokenRef} (hrow : treebank.StandsAt row ref) {mark : String} {stars : Nat}
    (hmark : mark ∈ Token.noChain) (hstars : row.coreference = some (mark.pushn '*' stars)) :
    row.chain? = none := by
  rw [Token.chain?_of_pushn hstars, Token.dropTrailing_of_mem_noChain hmark]
  by_cases hempty : mark = ""
  · simp [hempty]
  · -- With stars, the row would be marked as the head of a chain.
    have hzero : stars = 0 := by
      by_contra hmore
      obtain ⟨more, rfl⟩ := Nat.exists_eq_succ_of_ne_zero hmore
      exact hheads row ref hrow mark hmark hempty ⟨more, hstars⟩
    rw [if_pos ⟨hmark, hzero⟩]

private theorem mem_mates_of_pushn {ref mate : TokenRef} {token : Token} {mark : String}
    {stars : Nat} (htoken : treebank.corpus.token? ref = some token)
    (hmark : mark ∈ Token.noChain) (hstars : token.coreference = some (mark.pushn '*' stars)) :
    mate ∈ (Coreference.ofCorpus treebank.corpus).mates treebank.corpus ref ↔
      mate = ref ∨ 0 < stars ∧ mark ≠ "" ∧
        ∃ row, treebank.StandsAt row mate ∧ row.IsMarkedHead mark := by
  rw [← mates, mem_mates_iff_standsAt htoken, Token.chain?_of_pushn hstars,
    Token.dropTrailing_of_mem_noChain hmark]
  refine or_congr_right ?_
  by_cases hzero : stars = 0
  · simp [hmark, hzero]
  · by_cases hempty : mark = ""
    · simp [hempty]
    · simp [hzero, hempty, Nat.pos_of_ne_zero hzero, Token.chain?_eq_noChain_iff hmark]

/-- **Marks of no chain, with and without stars.**  In any treebank, whatever marks its rows bear:
a token names a chain like a mark of no chain if and only if it is marked as the head of
one, that is with stars.  Marks that differ in stars only name the same chain, but for a mark of
no chain and the same with stars.  The chain that is named like a mark of no chain has the rows
that are marked as its head.  The mates of a token with a mark of no chain are the token itself
and, if there are stars, these rows.

So where no row bears a mark of no chain with stars, there are no such chains, and a token with a
mark of no chain is its own only mate. -/
theorem chain_noChain_iff_starred (treebank : Treebank) :
    let corpus := treebank.corpus
    let coreference := Coreference.ofCorpus corpus
    (∀ mark ∈ Token.noChain, ∀ token : Token,
      token.chain? = some mark ↔ mark ≠ "" ∧ token.IsMarkedHead mark) ∧
    (∀ (first second : Token) (name : String) (stars others : Nat),
      first.coreference = some (name.pushn '*' stars) →
      second.coreference = some (name.pushn '*' others) →
        (first.chain? = second.chain? ↔
          (name ∈ Token.noChain → name ≠ "" → (stars = 0 ↔ others = 0)))) ∧
    (∀ mark ∈ Token.noChain, ∀ ref, ref ∈ coreference.chain mark ↔
      mark ≠ "" ∧ ∃ row, treebank.StandsAt row ref ∧ row.IsMarkedHead mark) ∧
    (∀ ref token, corpus.token? ref = some token →
      ∀ mark ∈ Token.noChain, ∀ stars, token.coreference = some (mark.pushn '*' stars) →
        ∀ mate, mate ∈ coreference.mates corpus ref ↔
          mate = ref ∨ 0 < stars ∧ mark ≠ "" ∧
            ∃ row, treebank.StandsAt row mate ∧ row.IsMarkedHead mark) ∧
    (treebank.HeadsChainsOnly →
      (∀ mark ∈ Token.noChain, coreference.chain mark = []) ∧
      ∀ ref token, corpus.token? ref = some token →
        ∀ mark ∈ Token.noChain, ∀ stars, token.coreference = some (mark.pushn '*' stars) →
          coreference.mates corpus ref = [ref]) := by
  intro corpus coreference
  refine ⟨fun mark hmark token => Token.chain?_eq_noChain_iff hmark,
    fun first second name stars others => Token.chain?_eq_chain?_iff,
    fun mark hmark ref => mem_chain_iff_isMarkedHead hmark,
    fun ref token htoken mark hmark stars hstars mate =>
      mem_mates_of_pushn htoken hmark hstars,
    fun hheads => ⟨fun mark => hheads.chain_eq_nil, ?_⟩⟩
  -- If heads are marked of chains only, the token has no chain, and without one it has no others.
  intro ref token htoken mark hmark stars hstars
  have hstands := (token?_corpus_eq_some_iff.mp htoken).2.standsAt
  rw [Coreference.mates, htoken, Option.bind_some, hheads.chain?_eq_none hstands hmark hstars]

/-- Marks of no chain without stars, and the head of a chain. -/
def weather : Treebank where
  source := "weather"
  parses := [
    { id := 1
      rows := [
        { Token.parsed 1 "It" "it" "PRP" 2 "expl" with coreference := some "_" },
        { Token.parsed 2 "snowed" "snow" "VBD" 0 "root" with coreference := some "none" },
        { Token.parsed 3 "Monday" "Monday" "NNP" 2 "obl" with coreference := some "c1*" }]
      metadata := ∅ }]

/-- Neither *it* nor *snowed* has mates. -/
theorem chain_noChain_iff_starred_weather :
    weather.HeadsChainsOnly ∧ "_" ∈ Token.noChain ∧
      (Coreference.ofCorpus weather.corpus).chain "_" = [] ∧
      ∃ token, weather.corpus.token? ⟨1, 1⟩ = some token ∧
        token.coreference = some ("_".pushn '*' 0) ∧
        (Coreference.ofCorpus weather.corpus).mates weather.corpus ⟨1, 1⟩ = [⟨1, 1⟩] := by
  have hnone : ∀ parse ∈ weather.parses, ∀ row ∈ parse.rows, ∀ mark ∈ Token.noChain,
      row.chain? ≠ some mark := by
    decide +kernel
  have hheads : weather.HeadsChainsOnly := by
    rintro row ref ⟨parse, hparse, -, hrow, -⟩ mark hmark hnonempty hmarked
    exact hnone parse hparse row hrow mark hmark
      ((Token.chain?_eq_noChain_iff hmark).mpr ⟨hnonempty, hmarked⟩)
  obtain ⟨token, htoken⟩ : ∃ token, weather.corpus.token? ⟨1, 1⟩ = some token := ⟨_, rfl⟩
  have hmark : token.coreference = some ("_".pushn '*' 0) := by
    cases htoken
    rfl
  have hsentinel : "_" ∈ Token.noChain := by decide
  obtain ⟨-, -, -, -, hclean⟩ := chain_noChain_iff_starred weather
  obtain ⟨hchains, hmates⟩ := hclean hheads
  exact ⟨hheads, hsentinel, hchains "_" hsentinel, token, htoken, hmark,
    hmates ⟨1, 1⟩ token htoken "_" hsentinel 0 hmark⟩

/-- Nothing is a head here, and still three tokens are marked so. -/
def starredWeather : Treebank where
  source := "weather"
  parses := [
    { id := 1
      rows := [
        { Token.parsed 1 "It" "it" "PRP" 2 "expl" with coreference := some "_*" },
        { Token.parsed 2 "rained" "rain" "VBD" 0 "root" with coreference := some "_" }]
      metadata := ∅ },
    { id := 2
      rows := [
        { Token.parsed 1 "It" "it" "PRP" 2 "expl" with coreference := some "_*" },
        { Token.parsed 2 "snowed" "snow" "VBD" 0 "root" with coreference := some "none*" }]
      metadata := ∅ }]

/-- Marks of no chain do form chains, whose heads are mates. -/
theorem noChain_starredWeather :
    (Coreference.ofCorpus starredWeather.corpus).chain "_" = [⟨1, 1⟩, ⟨2, 1⟩] ∧
      (Coreference.ofCorpus starredWeather.corpus).chain "none" = [⟨2, 2⟩] ∧
      (Coreference.ofCorpus starredWeather.corpus).mates starredWeather.corpus ⟨1, 1⟩ =
        [⟨1, 1⟩, ⟨2, 1⟩] ∧
      starredWeather.corpus.chain? ⟨1, 1⟩ ≠ starredWeather.corpus.chain? ⟨1, 2⟩ := by
  decide +kernel

end Treebank

end Concordancer
