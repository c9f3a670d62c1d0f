import RelayFeeds.Text.Hex
import RelayFeeds.Text.Numeral

/-! # IPv4 addresses — hosts that are called by one to four numbers

A name whose last part is a number is an IPv4 address. Its parts may be hexadecimal, octal or
decimal, and the last one fills all bytes that are left. -/

namespace RelayFeeds.Host

/-- The value of a part of an IPv4 address: hexadecimal, octal or decimal by its leading
characters. -/
def ipv4Part? (text : List Char) : Option Nat :=
  match text with
  | [] => none
  | ['0'] => some 0
  | '0' :: 'x' :: digits | '0' :: 'X' :: digits =>
    if digits.all Text.isHexDigit then some (Text.hexNumber digits) else none
  | '0' :: digits =>
    if digits.all (fun c => '0' ≤ c && c ≤ '7') then
      some (digits.foldl (fun n c => n * 8 + Text.digitValue c) 0)
    else none
  | digits => if digits.all Text.isDigit then some (Text.digitsValue digits) else none

/-- The parts of a name without the empty one after a last dot. -/
def withoutRoot (parts : List (List Char)) : List (List Char) :=
  match parts.reverse with
  | [] :: last :: before => (last :: before).reverse
  | _ => parts

/-- Whether a name of some parts ends in a number and so must be an IPv4 address. -/
def endsInNumber (parts : List (List Char)) : Bool :=
  match (withoutRoot parts).getLast? with
  | none => false
  | some last => (!last.isEmpty && last.all Text.isDigit) || (ipv4Part? last).isSome

/-- Whether numbers are the parts of an IPv4 address: the last one fills the bytes that are left. -/
def isIpv4Numbers (room : Nat) : List Nat → Bool
  | [] => false
  | [last] => last < Nat.pow 256 room
  | part :: rest => part < 256 && 1 < room && isIpv4Numbers (room - 1) rest

/-- Whether a name of some parts is an IPv4 address. -/
def isIpv4 (parts : List (List Char)) : Bool :=
  let values := (withoutRoot parts).map ipv4Part?
  values.all Option.isSome && isIpv4Numbers 4 (values.filterMap id)

/-- Whether a text is four decimal bytes, as at the end of an IPv6 address. -/
def isDottedQuad (text : List Char) : Bool :=
  let parts := text.splitOn '.'
  parts.length == 4 && parts.all (fun part =>
    !part.isEmpty && part.all Text.isDigit && Text.digitsValue part < 256 &&
      (part.length == 1 || part.head? != some '0'))

end RelayFeeds.Host
