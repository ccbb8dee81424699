/-
Digests of bytes.

A text is filled up to whole blocks, and a state of some words is mixed with one block after
another.
-/
import ScriptDeps.Shell.Bytes

namespace ScriptDeps.Shell.Digest

/-! ### Words and blocks -/

/-- A text filled up to blocks of a size, with its length in bits at the end. -/
def filled (block : Nat) (bigEnd : Bool) (b : Bytes) : Bytes :=
  let size := block / 8
  let used := (b.length + 1 + size) % block
  let zeros := if used == 0 then 0 else block - used
  let bits := b.length * 8
  let digits := (List.range size).map fun i => Char.ofNat (bits / Nat.pow 256 i % 256)
  b ++ '\x80' :: List.replicate zeros '\x00' ++ (if bigEnd then digits.reverse else digits)

/-- The pieces of a list, each of a length. -/
def chunks {α : Type} (n : Nat) : Nat → List α → List (List α)
  | 0, _ => []
  | _, [] => []
  | fuel + 1, s => s.take n :: chunks n fuel (s.drop n)

/-- The number that bytes are, the first one counting most or least. -/
def number (bigEnd : Bool) (b : Bytes) : Nat :=
  (if bigEnd then b else b.reverse).foldl (fun n c => 256 * n + c.toNat) 0

/-- The hexadecimal digits of a number of so many bytes. -/
def hex (bytes : Nat) (n : Nat) : Bytes :=
  let digits := Nat.toDigits 16 n
  List.replicate (2 * bytes - digits.length) '0' ++ digits

/-- The bytes of a word in the other order. -/
def swapped (n : Nat) : Nat :=
  (n % 256) * 16777216 + (n / 256 % 256) * 65536 + (n / 65536 % 256) * 256 + n / 16777216 % 256

def rotl (x : UInt32) (n : UInt32) : UInt32 :=
  (x <<< n) ||| (x >>> (32 - n))

def rotr (x : UInt32) (n : UInt32) : UInt32 :=
  (x >>> n) ||| (x <<< (32 - n))

def rotr64 (x : UInt64) (n : UInt64) : UInt64 :=
  (x >>> n) ||| (x <<< (64 - n))

/-! ### Constants -/

/-- The whole part of a root of a number times a power of two. -/
def rootOf (power : Nat) (n : Nat) : Nat :=
  let rec search : Nat → Nat → Nat → Nat
    | 0, low, _ => low
    | fuel + 1, low, high =>
      let middle := (low + high) / 2
      if high ≤ low + 1 then low
      else if Nat.pow middle power ≤ n then search fuel middle high
      else search fuel low middle
  search 400 0 (n + 2)

/-- The first primes. -/
def primes : List Nat :=
  ((List.range 420).filter fun n =>
    2 ≤ n && (List.range 21).all fun d => d < 2 || d == n || n % d != 0)

/-- The first bits behind the point of the cube roots of the first primes. -/
def cubeRoots (bits count : Nat) : List Nat :=
  (primes.take count).map fun p => rootOf 3 (p * Nat.pow 2 (3 * bits)) % Nat.pow 2 bits

/-- The first bits behind the point of the square roots of primes. -/
def squareRoots (bits : Nat) (ps : List Nat) : List Nat :=
  ps.map fun p => rootOf 2 (p * Nat.pow 2 (2 * bits)) % Nat.pow 2 bits

/-! ### MD5 -/

/-- The constants of the rounds, which are sines. -/
def sines : List Nat :=
  [0xd76aa478, 0xe8c7b756, 0x242070db, 0xc1bdceee, 0xf57c0faf, 0x4787c62a, 0xa8304613, 0xfd469501,
    0x698098d8, 0x8b44f7af, 0xffff5bb1, 0x895cd7be, 0x6b901122, 0xfd987193, 0xa679438e, 0x49b40821,
    0xf61e2562, 0xc040b340, 0x265e5a51, 0xe9b6c7aa, 0xd62f105d, 0x02441453, 0xd8a1e681, 0xe7d3fbc8,
    0x21e1cde6, 0xc33707d6, 0xf4d50d87, 0x455a14ed, 0xa9e3e905, 0xfcefa3f8, 0x676f02d9, 0x8d2a4c8a,
    0xfffa3942, 0x8771f681, 0x6d9d6122, 0xfde5380c, 0xa4beea44, 0x4bdecfa9, 0xf6bb4b60, 0xbebfbc70,
    0x289b7ec6, 0xeaa127fa, 0xd4ef3085, 0x04881d05, 0xd9d4d039, 0xe6db99e5, 0x1fa27cf8, 0xc4ac5665,
    0xf4292244, 0x432aff97, 0xab9423a7, 0xfc93a039, 0x655b59c3, 0x8f0ccc92, 0xffeff47d, 0x85845dd1,
    0x6fa87e4f, 0xfe2ce6e0, 0xa3014314, 0x4e0811a1, 0xf7537e82, 0xbd3af235, 0x2ad7d2bb, 0xeb86d391]

/-- How far each round turns. -/
def turns (round : Nat) : UInt32 :=
  let row := match round / 16 with
    | 0 => [7, 12, 17, 22]
    | 1 => [5, 9, 14, 20]
    | 2 => [4, 11, 16, 23]
    | _ => [6, 10, 15, 21]
  UInt32.ofNat ((row[round % 4]?).getD 0)

abbrev Four := UInt32 × UInt32 × UInt32 × UInt32

/-- One round with a block. -/
def round5 (words : Array UInt32) (acc : Four) (entry : Nat × Nat) : Four :=
  let (a, b, c, d) := acc
  let (sine, i) := entry
  let (f, g) := match i / 16 with
    | 0 => ((b &&& c) ||| (~~~b &&& d), i)
    | 1 => ((d &&& b) ||| (~~~d &&& c), (5 * i + 1) % 16)
    | 2 => (b ^^^ c ^^^ d, (3 * i + 5) % 16)
    | _ => (c ^^^ (b ||| ~~~d), (7 * i) % 16)
  let sum := f + a + UInt32.ofNat sine + (words[g]?).getD 0
  (d, b + rotl sum (turns i), b, c)

def md5 (b : Bytes) : Bytes :=
  let start : Four := (0x67452301, 0xefcdab89, 0x98badcfe, 0x10325476)
  let text := filled 64 false b
  let (a, b, c, d) := (chunks 64 (text.length / 64 + 1) text).foldl
    (fun (acc : Four) block =>
      let words := ((chunks 4 16 block).map fun w => UInt32.ofNat (number false w)).toArray
      let (a, b, c, d) := (sines.zipIdx).foldl (round5 words) acc
      (acc.1 + a, acc.2.1 + b, acc.2.2.1 + c, acc.2.2.2 + d)) start
  [a, b, c, d].flatMap fun w => hex 4 (swapped w.toNat)

/-! ### SHA-1 -/

/-- The words of a block, each new one made of earlier ones; the newest first. -/
def extended1 : Nat → List UInt32 → List UInt32
  | 0, ws => ws
  | n + 1, ws =>
    let at_ := fun i => (ws[i]?).getD 0
    extended1 n (rotl (at_ 2 ^^^ at_ 7 ^^^ at_ 13 ^^^ at_ 15) 1 :: ws)

abbrev Five := UInt32 × UInt32 × UInt32 × UInt32 × UInt32

def round1 (acc : Five) (entry : UInt32 × Nat) : Five :=
  let (a, b, c, d, e) := acc
  let (w, i) := entry
  let (f, k) := match i / 20 with
    | 0 => ((b &&& c) ||| (~~~b &&& d), (0x5a827999 : UInt32))
    | 1 => (b ^^^ c ^^^ d, 0x6ed9eba1)
    | 2 => ((b &&& c) ||| (b &&& d) ||| (c &&& d), 0x8f1bbcdc)
    | _ => (b ^^^ c ^^^ d, 0xca62c1d6)
  (rotl a 5 + f + e + k + w, a, rotl b 30, c, d)

def sha1 (b : Bytes) : Bytes :=
  let start : Five := (0x67452301, 0xefcdab89, 0x98badcfe, 0x10325476, 0xc3d2e1f0)
  let text := filled 64 true b
  let (a, b, c, d, e) := (chunks 64 (text.length / 64 + 1) text).foldl
    (fun (acc : Five) block =>
      let words := (chunks 4 16 block).map fun w => UInt32.ofNat (number true w)
      let all := (extended1 64 words.reverse).reverse
      let (a, b, c, d, e) := all.zipIdx.foldl round1 acc
      (acc.1 + a, acc.2.1 + b, acc.2.2.1 + c, acc.2.2.2.1 + d, acc.2.2.2.2 + e)) start
  [a, b, c, d, e].flatMap fun w => hex 4 w.toNat

/-! ### SHA-2 -/

def extended256 : Nat → List UInt32 → List UInt32
  | 0, ws => ws
  | n + 1, ws =>
    let at_ := fun i => (ws[i]?).getD 0
    let x := at_ 14
    let y := at_ 1
    let s := rotr x 7 ^^^ rotr x 18 ^^^ (x >>> 3)
    let t := rotr y 17 ^^^ rotr y 19 ^^^ (y >>> 10)
    extended256 n ((at_ 15 + s + at_ 6 + t) :: ws)

/-- One round with eight words. -/
def round256 (acc : List UInt32) (entry : UInt32 × UInt32) : List UInt32 :=
  match acc with
  | [a, b, c, d, e, f, g, h] =>
    let (w, k) := entry
    let s := rotr e 6 ^^^ rotr e 11 ^^^ rotr e 25
    let choice := (e &&& f) ^^^ (~~~e &&& g)
    let t := h + s + choice + k + w
    let u := rotr a 2 ^^^ rotr a 13 ^^^ rotr a 22
    let major := (a &&& b) ^^^ (a &&& c) ^^^ (b &&& c)
    [t + u + major, a, b, c, d + t, e, f, g]
  | acc => acc

def sum256 (start : List Nat) (words : Nat) (b : Bytes) : Bytes :=
  let constants := (cubeRoots 32 64).map UInt32.ofNat
  let text := filled 64 true b
  let final := (chunks 64 (text.length / 64 + 1) text).foldl
    (fun (acc : List UInt32) block =>
      let ws := (chunks 4 16 block).map fun w => UInt32.ofNat (number true w)
      let all := (extended256 48 ws.reverse).reverse
      let mixed := (all.zip constants).foldl round256 acc
      (acc.zip mixed).map fun (a, b) => a + b) (start.map UInt32.ofNat)
  (final.take words).flatMap fun w => hex 4 w.toNat

def sha256 (b : Bytes) : Bytes :=
  sum256 (squareRoots 32 (primes.take 8)) 8 b

def sha224 (b : Bytes) : Bytes :=
  -- The second half of the bits that the longer digest begins with.
  sum256 ((squareRoots 64 ((primes.drop 8).take 8)).map (· % 4294967296)) 7 b

def extended512 : Nat → List UInt64 → List UInt64
  | 0, ws => ws
  | n + 1, ws =>
    let at_ := fun i => (ws[i]?).getD 0
    let x := at_ 14
    let y := at_ 1
    let s := rotr64 x 1 ^^^ rotr64 x 8 ^^^ (x >>> 7)
    let t := rotr64 y 19 ^^^ rotr64 y 61 ^^^ (y >>> 6)
    extended512 n ((at_ 15 + s + at_ 6 + t) :: ws)

def round512 (acc : List UInt64) (entry : UInt64 × UInt64) : List UInt64 :=
  match acc with
  | [a, b, c, d, e, f, g, h] =>
    let (w, k) := entry
    let s := rotr64 e 14 ^^^ rotr64 e 18 ^^^ rotr64 e 41
    let choice := (e &&& f) ^^^ (~~~e &&& g)
    let t := h + s + choice + k + w
    let u := rotr64 a 28 ^^^ rotr64 a 34 ^^^ rotr64 a 39
    let major := (a &&& b) ^^^ (a &&& c) ^^^ (b &&& c)
    [t + u + major, a, b, c, d + t, e, f, g]
  | acc => acc

def sum512 (start : List Nat) (words : Nat) (b : Bytes) : Bytes :=
  let constants := (cubeRoots 64 80).map UInt64.ofNat
  let text := filled 128 true b
  let final := (chunks 128 (text.length / 128 + 1) text).foldl
    (fun (acc : List UInt64) block =>
      let ws := (chunks 8 16 block).map fun w => UInt64.ofNat (number true w)
      let all := (extended512 64 ws.reverse).reverse
      let mixed := (all.zip constants).foldl round512 acc
      (acc.zip mixed).map fun (a, b) => a + b) (start.map UInt64.ofNat)
  (final.take words).flatMap fun w => hex 8 w.toNat

def sha512 (b : Bytes) : Bytes :=
  sum512 (squareRoots 64 (primes.take 8)) 8 b

def sha384 (b : Bytes) : Bytes :=
  sum512 (squareRoots 64 ((primes.drop 8).take 8)) 6 b

/-! ### Checksums -/

/-- The remainder of a byte that is shifted into a checksum. -/
def shiftedIn (crc : UInt32) (byte : Nat) : UInt32 :=
  (List.range 8).foldl
    (fun (crc : UInt32) i =>
      let bit : UInt32 := UInt32.ofNat (byte / Nat.pow 2 (7 - i) % 2)
      let top := (crc >>> 31) ^^^ bit
      (crc <<< 1) ^^^ (if top == 1 then 0x04c11db7 else 0)) crc

/-- The bytes of the length of a text, the least first. -/
def lengthBytes : Nat → Nat → List Nat
  | 0, _ => []
  | fuel + 1, n => if n == 0 then [] else n % 256 :: lengthBytes fuel (n / 256)

/-- The checksum of a text and its length. -/
def checksum (b : Bytes) : Nat :=
  let crc := (b.map Char.toNat).foldl shiftedIn 0
  (~~~((lengthBytes 9 b.length).foldl shiftedIn crc)).toNat

/-- The sum of bytes that is turned at each one. -/
def turnedSum (b : Bytes) : Nat :=
  b.foldl (fun n c => ((n / 2) + (n % 2) * 32768 + c.toNat) % 65536) 0

end ScriptDeps.Shell.Digest
