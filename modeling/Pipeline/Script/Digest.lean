import Pipeline.Double
import Pipeline.Script.Call

/-! Programs that write octets in other forms: `base64`, and the digests of files. -/

namespace Pipeline.Script.Digest

/-- The letters of base 64. -/
def letters : Octets :=
  "ABCDEFGHIJKLMNOPQRSTUVWXYZabcdefghijklmnopqrstuvwxyz0123456789+/".toList

/-- Octets in base 64. -/
def encode : Octets → Octets
  | [] => []
  | a :: rest =>
    let letter (n : Nat) : Char := letters[n % 64]?.getD '='
    match rest with
    | [] => [letter (a.toNat / 4), letter (a.toNat * 16), '=', '=']
    | [b] =>
      [letter (a.toNat / 4), letter (a.toNat * 16 + b.toNat / 16), letter (b.toNat * 4), '=']
    | b :: c :: rest =>
      letter (a.toNat / 4) :: letter (a.toNat * 16 + b.toNat / 16) ::
        letter (b.toNat * 4 + c.toNat / 64) :: letter c.toNat :: encode rest

/-- The octets that letters of base 64 stand for. -/
def decode : Octets → Octets
  | a :: b :: rest =>
    let value (c : Char) : Nat := (letters.idxOf? c).getD 0
    let front := Char.ofNat ((value a * 4 + value b / 16) % 256)
    match rest with
    | c :: d :: rest =>
      if c = '=' then [front]
      else
        let middle := Char.ofNat ((value b * 16 + value c / 4) % 256)
        if d = '=' then [front, middle]
        else front :: middle :: Char.ofNat ((value c * 64 + value d) % 256) :: decode rest
    | _ => [front]
  | _ => []

/-- The lines of a text of some width. -/
def wrapped (width : Nat) : Nat → Octets → List Octets
  | 0, _ => []
  | fuel + 1, cs =>
    if cs.isEmpty then [] else cs.take width :: wrapped width fuel (cs.drop width)

/-! Digests work on blocks of 64 octets, and on words of 32 bits. -/

/-- The octets of a number, the highest ones first. -/
def bytesOf (count n : Nat) : List Nat :=
  ((List.range count).map fun i => n / twoTo (8 * i) % 256).reverse

/-- The words of octets; `little` says that the lowest octet of a word comes first. -/
def wordsOf (little : Bool) : List Nat → List UInt32
  | a :: b :: c :: d :: rest =>
    let bytes := if little then [d, c, b, a] else [a, b, c, d]
    (bytes.foldl (fun n byte => n * 256 + byte) 0).toUInt32 :: wordsOf little rest
  | _ => []

/-- The octets with what a digest puts behind them. -/
def padded (little : Bool) (octets : Octets) : List Nat :=
  let size := octets.length
  let zeros := (119 - size % 64) % 64
  let length := bytesOf 8 (size * 8)
  octets.map Char.toNat ++ 128 :: List.replicate zeros 0 ++
    (if little then length.reverse else length)

/-- Blocks of sixteen words. -/
def blocks : Nat → List UInt32 → List (Array UInt32)
  | 0, _ => []
  | fuel + 1, words =>
    if words.isEmpty then [] else (words.take 16).toArray :: blocks fuel (words.drop 16)

/-- A word turned to the left. -/
def turnLeft (x : UInt32) (n : UInt32) : UInt32 := (x <<< n) ||| (x >>> (32 - n))

/-- A word turned to the right. -/
def turnRight (x : UInt32) (n : UInt32) : UInt32 := (x >>> n) ||| (x <<< (32 - n))

/-- The digits of words in base sixteen. -/
def hexadecimal (little : Bool) (words : List UInt32) : Octets :=
  words.flatMap fun word =>
    let bytes := bytesOf 4 word.toNat
    (if little then bytes.reverse else bytes).flatMap fun byte =>
      let digits := Nat.toDigits 16 byte
      List.replicate (2 - digits.length) '0' ++ digits

/-- The primes at which the constants of the digest of 256 bits start. -/
def primes : List Nat :=
  (List.range 312).filter fun n => n > 1 && (List.range n).all fun d => d < 2 || n % d ≠ 0

/-- The root of a number, rounded down: the greatest `r` below the bound with `r ^ k ≤ n`. -/
def root (k n : Nat) : Nat → Nat → Nat
  | 0, low => low
  | bits + 1, low =>
    let next := low + twoTo bits
    root k n bits (if Nat.pow next k ≤ n then next else low)

/-- The first 32 bits after the point of a root of a prime. -/
def fraction (k p : Nat) : UInt32 := (root k (p * twoTo (32 * k)) 40 0 % twoTo 32).toUInt32

/-- The words with which the digest of 256 bits starts. -/
def startWords : List UInt32 := (primes.take 8).map (fraction 2)

/-- The constants of its rounds. -/
def roundWords : Array UInt32 := (primes.map (fraction 3)).toArray

/-- The 64 words that a block is spread over. -/
def schedule (block : Array UInt32) : Array UInt32 :=
  (List.range 48).foldl (fun w _ =>
    let back (n : Nat) : UInt32 := w[w.size - n]?.getD 0
    let a := back 15
    let b := back 2
    let s := turnRight a 7 ^^^ turnRight a 18 ^^^ (a >>> 3)
    let t := turnRight b 17 ^^^ turnRight b 19 ^^^ (b >>> 10)
    w.push (back 16 + s + back 7 + t)) block

/-- One round of the digest of 256 bits. -/
def round256 (words : List UInt32) (k w : UInt32) : List UInt32 :=
  match words with
  | [a, b, c, d, e, f, g, h] =>
    let s := turnRight e 6 ^^^ turnRight e 11 ^^^ turnRight e 25
    let choice := (e &&& f) ^^^ ((e ^^^ 0xffffffff) &&& g)
    let x := h + s + choice + k + w
    let t := turnRight a 2 ^^^ turnRight a 13 ^^^ turnRight a 22
    let majority := (a &&& b) ^^^ (a &&& c) ^^^ (b &&& c)
    [x + t + majority, a, b, c, d + x, e, f, g]
  | words => words

/-- The digest of 256 bits. -/
def digest256 (octets : Octets) : Octets :=
  let words := wordsOf false (padded false octets)
  let step (state : List UInt32) (block : Array UInt32) : List UInt32 :=
    let after := (roundWords.toList.zip (schedule block).toList).foldl
      (fun words (k, w) => round256 words k w) state
    (state.zip after).map fun (a, b) => a + b
  hexadecimal false ((blocks (words.length + 1) words).foldl step startWords)

/-- How far the words of the digest of 128 bits are turned, by round. -/
def turns : Array (List UInt32) :=
  #[[7, 12, 17, 22], [5, 9, 14, 20], [4, 11, 16, 23], [6, 10, 15, 21]]

/-- The constants of the digest of 128 bits, in base sixteen. -/
def constants128 : String :=
  "d76aa478e8c7b756242070dbc1bdceeef57c0faf4787c62aa8304613fd469501" ++
  "698098d88b44f7afffff5bb1895cd7be6b901122fd987193a679438e49b40821" ++
  "f61e2562c040b340265e5a51e9b6c7aad62f105d02441453d8a1e681e7d3fbc8" ++
  "21e1cde6c33707d6f4d50d87455a14eda9e3e905fcefa3f8676f02d98d2a4c8a" ++
  "fffa39428771f6816d9d6122fde5380ca4beea444bdecfa9f6bb4b60bebfbc70" ++
  "289b7ec6eaa127fad4ef308504881d05d9d4d039e6db99e51fa27cf8c4ac5665" ++
  "f4292244432aff97ab9423a7fc93a039655b59c38f0ccc92ffeff47d85845dd1" ++
  "6fa87e4ffe2ce6e0a30143144e0811a1f7537e82bd3af2352ad7d2bbeb86d391"

/-- The words that eight digits of base sixteen each write. -/
def hexWords : Octets → List UInt32
  | a :: b :: c :: d :: e :: f :: g :: h :: rest =>
    let value (c : Char) : Nat := ("0123456789abcdef".toList.idxOf? c).getD 0
    (([a, b, c, d, e, f, g, h].map value).foldl (fun n v => n * 16 + v) 0).toUInt32 :: hexWords rest
  | _ => []

/-- One step of the digest of 128 bits. -/
def step128 (block : Array UInt32) (words : List UInt32) (i : Nat) (k : UInt32) : List UInt32 :=
  match words with
  | [a, b, c, d] =>
    let round := i / 16
    let (mixed, place) :=
      if round = 0 then ((b &&& c) ||| ((b ^^^ 0xffffffff) &&& d), i)
      else if round = 1 then ((d &&& b) ||| ((d ^^^ 0xffffffff) &&& c), (5 * i + 1) % 16)
      else if round = 2 then (b ^^^ c ^^^ d, (3 * i + 5) % 16)
      else (c ^^^ (b ||| (d ^^^ 0xffffffff)), 7 * i % 16)
    let turn := ((turns[round]?.getD [])[i % 4]?).getD 0
    let sum := a + mixed + k + block[place]?.getD 0
    [d, b + turnLeft sum turn, b, c]
  | words => words

/-- The digest of 128 bits. -/
def digest128 (octets : Octets) : Octets :=
  let words := wordsOf true (padded true octets)
  let constants := hexWords constants128.toList
  let step (state : List UInt32) (block : Array UInt32) : List UInt32 :=
    let after := ((List.range 64).zip constants).foldl
      (fun words (i, k) => step128 block words i k) state
    (state.zip after).map fun (a, b) => a + b
  hexadecimal true ((blocks (words.length + 1) words).foldl step
    [0x67452301, 0xefcdab89, 0x98badcfe, 0x10325476])

end Digest

namespace Tool

/-- `base64`. -/
def base64 (call : Call) : Effect :=
  let request := call.request ['w'] [("decode", 'd'), ("wrap", 'w')]
  let width := (request.number? 'w').getD 76
  call.filter request.operands fun octets =>
    if request.has 'd' then
      Digest.decode (octets.filter fun c => c ≠ '\n' && c ≠ '\r')
    else
      let text := Digest.encode octets
      if width = 0 then text else Octets.unlines (Digest.wrapped width (text.length + 1) text)

/-- The programs that print the digests of files. -/
def digests (digest : Octets → Octets) (call : Call) : Effect :=
  let request := call.request [] []
  let row (name octets : Octets) : Octets := digest octets ++ [' ', ' '] ++ name ++ ['\n']
  if request.operands.isEmpty then { call.prints (row ['-'] call.input) with input := [] }
  else
    request.operands.foldl (fun effect path =>
      match call.content path.toText with
      | .ok octets => { effect with output := effect.output ++ row path octets }
      | .error text => { effect with errors := effect.errors ++ call.message text, status := 1 })
      (call.prints [])

end Tool

end Pipeline.Script
