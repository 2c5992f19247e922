/-
NetWatch.Address.DomainMapping — which characters a domain name may hold, and
what the others become.

A domain name can be written with capital letters, letters of other widths,
ligatures and the like, which all mean the plain letters. The tables give for
every such character the characters that stand for it, and name those that are
dropped; of the rest they say which may stay. The tables are those of Unicode's
compatibility processing for domain names, without its transitional
replacements.
-/
import NetWatch.Text.RangeTable

namespace NetWatch.DomainMapping

open Text

/-! ## Tables -/

/-- Characters at equal steps, each replaced by one that lies equally far away. -/
structure Shift where
  first : Nat
  /-- How many there are beyond the first. -/
  more : Nat
  step : Nat
  /-- What the first is replaced by. -/
  target : Nat
  deriving DecidableEq, Repr

/-- What a code point is replaced by, if the shift concerns it. -/
def Shift.image? (s : Shift) (n : Nat) : Option Nat :=
  if s.first ≤ n ∧ n ≤ s.first + s.more * s.step ∧ (n - s.first) % s.step = 0 then
    some (s.target + (n - s.first))
  else none

/-- Reads shifts, each as its distance from the one before it, a number for how many there are
(even for steps of one, odd for steps of two) and the target. -/
def Shift.ofGaps : Nat → List Nat → List Shift
  | prev, gap :: count :: target :: rest =>
    ⟨prev + gap, count / 2, count % 2 + 1, target⟩ :: ofGaps (prev + gap) rest
  | _, _ => []

/-- The characters from U+0080 on that one other character stands for. -/
def shifts : List Shift := Shift.ofGaps 0 <| numbers [
  "160 0 32 10 0 97 8 2 50 3 0 956 4 0 49 1 0 111 6 44 224 24 12 248 40 47 257 52 3 309 5 5 314",
  "8 7 322 9 45 331 46 0 255 1 5 378 6 0 115 2 0 595 1 3 387 4 0 596 1 0 392 2 2 598 2 0 396",
  "3 0 477 1 0 601 1 0 603 1 0 402 2 0 608 1 0 611 2 0 617 1 0 616 1 0 409 4 0 623 1 0 626",
  "2 0 629 1 5 417 6 0 640 1 0 424 2 0 643 3 0 429 2 0 648 1 0 432 2 2 650 2 3 436 4 0 658",
  "1 0 441 4 0 445 17 15 462 17 17 479 22 0 501 2 0 405 1 0 447 1 39 505 40 0 414 2 17 547",
  "24 0 11365 1 0 572 2 0 410 1 0 11366 3 0 578 2 0 384 1 0 649 1 0 652 1 9 583 106 3 104",
  "1 0 614 2 0 114 1 0 633 1 0 635 1 0 641 1 0 119 1 0 121 40 0 611 1 0 108 1 0 115 1 0 120",
  "1 0 661 92 2 768 3 0 787 2 0 953 43 3 881 4 0 697 2 0 887 8 0 59 1 0 1011 7 0 940 1 0 183",
  "1 4 941 4 0 972 2 2 973 3 32 945 18 16 963 44 0 983 1 0 946 1 0 952 1 0 965 1 0 973 1 0 971",
  "1 0 966 1 0 960 2 23 985 24 0 954 1 0 961 1 0 963 2 0 952 1 0 949 2 0 1016 2 0 963 1 0 1019",
  "3 4 891 3 30 1104 16 62 1072 80 33 1121 42 53 1163 54 0 1231 1 13 1218 15 95 1233 97 74 1377",
  "2523 0 3851 404 74 11520 39 0 11559 6 0 11565 47 0 4316 764 10 5104 2184 0 1074 1 0 1076",
  "1 0 1086 1 2 1089 2 0 1090 1 0 1098 1 0 1123 1 0 42571 8 84 4304 45 4 4349 111 0 97 1 0 230",
  "1 3 98 3 9 101 1 0 477 2 7 104 8 0 111 1 0 547 1 0 112 1 0 114 1 2 116 2 0 119 1 0 97",
  "1 2 592 2 0 7426 1 0 98 1 2 100 2 0 601 1 2 603 2 0 103 2 0 107 1 3 109 1 0 331 2 0 596",
  "1 2 7446 2 0 112 1 2 116 2 0 7453 1 0 623 1 0 118 1 0 7461 1 4 946 3 2 966 2 0 105 1 0 114",
  "1 2 117 2 2 946 2 0 961 1 2 966 15 0 1085 35 0 594 1 0 99 1 0 597 1 0 240 1 0 604 1 0 102",
  "1 0 607 1 0 609 1 0 613 1 4 616 3 0 7547 1 0 669 1 0 621 1 0 7557 1 0 671 1 0 625 1 0 624",
  "1 6 626 4 0 632 1 2 642 2 0 427 1 2 649 2 0 7452 1 2 651 2 0 122 1 4 656 3 0 952 65 149 7681",
  "155 0 7777 3 0 223 2 95 7841 104 14 7936 16 10 7952 16 14 7968 16 14 7984 16 10 8000",
  "17 7 8017 15 14 8032 9 0 940 2 0 941 2 0 942 2 0 943 2 0 972 2 0 973 2 0 974 59 2 8112",
  "2 0 8048 1 0 940 3 0 953 10 3 8050 1 0 941 2 0 942 8 0 912 5 2 8144 2 0 8054 1 0 943 8 0 944",
  "5 2 8160 2 0 8058 1 0 973 1 0 8165 3 0 96 9 0 8056 1 3 972 1 0 8060 6 0 32 1 0 32 1 0 32",
  "1 0 32 1 0 32 1 0 32 1 0 32 1 0 32 1 0 32 1 0 32 1 0 32 7 0 8208 30 0 32 48 0 32 17 0 48",
  "1 0 105 3 10 52 6 0 43 1 0 8722 1 0 61 1 2 40 2 0 110 1 18 48 10 0 43 1 0 8722 1 0 61 1 2 40",
  "3 0 97 1 0 101 1 0 111 1 0 120 1 0 601 1 0 104 1 6 107 4 0 112 1 2 115 103 0 99 5 0 603",
  "3 2 103 2 0 104 1 0 104 1 0 104 1 0 295 1 0 105 1 0 105 1 0 108 1 3 108 6 4 112 3 0 114",
  "1 0 114 7 0 122 2 0 969 2 0 122 2 0 107 1 0 229 1 2 98 3 0 101 1 2 101 2 0 8526 1 0 109",
  "1 0 111 1 6 1488 4 0 105 3 0 960 1 0 947 1 0 947 1 0 960 1 0 8721 5 0 100 1 2 100 2 2 105",
  "24 0 105 4 0 118 5 0 120 3 0 108 1 2 99 2 0 109 1 0 105 4 0 118 5 0 120 3 0 108 1 2 99",
  "2 0 109 4 0 8580 422 2 12296 311 16 49 86 50 97 26 50 97 26 0 48 1814 94 11312 96 0 11361",
  "2 0 619 1 0 7549 1 0 637 3 5 11368 6 0 593 1 0 625 1 0 592 1 0 594 2 0 11379 3 0 11382",
  "7 0 106 1 0 118 1 2 575 2 99 11393 107 3 11500 7 0 11507 125 0 11617 304 0 27597 84 0 40863",
  "13 0 19968 1 0 20008 1 0 20022 1 0 20031 1 0 20057 1 0 20101 1 0 20108 1 0 20128 1 0 20154",
  "1 0 20799 1 0 20837 1 0 20843 1 0 20866 1 0 20886 1 0 20907 1 0 20960 1 0 20981 1 0 20992",
  "1 0 21147 1 0 21241 1 0 21269 1 0 21274 1 0 21304 1 0 21313 1 0 21340 1 0 21353 1 0 21378",
  "1 0 21430 1 0 21448 1 0 21475 1 0 22231 1 0 22303 1 0 22763 1 0 22786 1 0 22794 1 0 22805",
  "1 0 22823 1 0 22899 1 0 23376 1 0 23424 1 0 23544 1 0 23567 1 0 23586 1 0 23608 1 0 23662",
  "1 0 23665 1 0 24027 1 0 24037 1 0 24049 1 0 24062 1 0 24178 1 0 24186 1 0 24191 1 0 24308",
  "1 0 24318 1 0 24331 1 0 24339 1 0 24400 1 0 24417 1 0 24435 1 0 24515 1 0 25096 1 0 25142",
  "1 0 25163 1 0 25903 1 0 25908 1 0 25991 1 0 26007 1 0 26020 1 0 26041 1 0 26080 1 0 26085",
  "1 0 26352 1 0 26376 1 0 26408 1 0 27424 1 0 27490 1 0 27513 1 0 27571 1 0 27595 1 0 27604",
  "1 0 27611 1 0 27663 1 0 27668 1 0 27700 1 0 28779 1 0 29226 1 0 29238 1 0 29243 1 0 29247",
  "1 0 29255 1 0 29273 1 0 29275 1 0 29356 1 0 29572 1 0 29577 1 0 29916 1 0 29926 1 0 29976",
  "1 0 29983 1 0 29992 1 0 30000 1 0 30091 1 0 30098 1 0 30326 1 0 30333 1 0 30382 1 0 30399",
  "1 0 30446 1 0 30683 1 0 30690 1 0 30707 1 0 31034 1 0 31160 1 0 31166 1 0 31348 1 0 31435",
  "1 0 31481 1 0 31859 1 0 31992 1 0 32566 1 0 32593 1 0 32650 1 0 32701 1 0 32769 1 0 32780",
  "1 0 32786 1 0 32819 1 0 32895 1 0 32905 1 0 33251 1 0 33258 1 0 33267 1 0 33276 1 0 33292",
  "1 0 33307 1 0 33311 1 0 33390 1 0 33394 1 0 33400 1 0 34381 1 0 34411 1 0 34880 1 0 34892",
  "1 0 34915 1 0 35198 1 0 35211 1 0 35282 1 0 35328 1 0 35895 1 0 35910 1 0 35925 1 0 35960",
  "1 0 35997 1 0 36196 1 0 36208 1 0 36275 1 0 36523 1 0 36554 1 0 36763 1 0 36784 1 0 36789",
  "1 0 37009 1 0 37193 1 0 37318 1 0 37324 1 0 37329 1 0 38263 1 0 38272 1 0 38428 1 0 38582",
  "1 0 38585 1 0 38632 1 0 38737 1 0 38750 1 0 38754 1 0 38761 1 0 38859 1 0 38893 1 0 38899",
  "1 0 38913 1 0 39080 1 0 39131 1 0 39135 1 0 39318 1 0 39321 1 0 39340 1 0 39592 1 0 39640",
  "1 0 39647 1 0 39717 1 0 39727 1 0 39730 1 0 39740 1 0 39770 1 0 40165 1 0 40565 1 0 40575",
  "1 0 40613 1 0 40635 1 0 40643 1 0 40653 1 0 40657 1 0 40697 1 0 40701 1 0 40718 1 0 40723",
  "1 0 40736 1 0 40763 1 0 40778 1 0 40786 1 0 40845 1 0 40860 1 0 40864 43 0 32 2 0 46",
  "52 0 12306 2 0 21313 1 2 21316 248 2 4352 2 3 4522 1 0 4354 2 0 4525 1 4 4355 3 10 4528",
  "6 0 4378 1 4 4358 3 0 4385 1 18 4361 10 40 4449 22 2 4372 2 2 4551 2 0 4556 1 0 4558",
  "1 0 4563 1 0 4567 1 0 4569 1 0 4380 1 0 4573 1 0 4575 1 2 4381 2 0 4384 1 2 4386 2 0 4391",
  "1 0 4393 1 8 4395 5 0 4402 1 0 4406 1 0 4416 1 0 4423 1 0 4428 1 2 4593 2 4 4439 3 2 4484",
  "2 0 4488 1 2 4497 2 0 4500 1 0 4510 1 0 4513 4 0 19968 1 0 20108 1 0 19977 1 0 22235",
  "1 0 19978 1 0 20013 1 0 19979 1 0 30002 1 0 20057 1 0 19993 1 0 19969 1 0 22825 1 0 22320",
  "1 0 20154 165 0 21839 1 0 24188 1 0 25991 1 0 31631 25 0 4352 1 2 4354 2 4 4357 3 0 4361",
  "1 2 4363 2 8 4366 5 0 44032 1 0 45208 1 0 45796 1 0 46972 1 0 47560 1 0 48148 1 0 49324",
  "1 0 50500 1 0 51088 1 0 52264 1 0 52852 1 0 53440 1 0 54028 1 0 54616 3 0 50864 2 0 19968",
  "1 0 20108 1 0 19977 1 0 22235 1 0 20116 1 0 20845 1 0 19971 1 0 20843 1 0 20061 1 0 21313",
  "1 0 26376 1 0 28779 1 0 27700 1 0 26408 1 0 37329 1 0 22303 1 0 26085 1 0 26666 1 0 26377",
  "1 0 31038 1 0 21517 1 0 29305 1 0 36001 1 0 31069 1 0 21172 1 0 31192 1 0 30007 1 0 22899",
  "1 0 36969 1 0 20778 1 0 21360 1 0 27880 1 0 38917 1 0 20241 1 0 20889 1 0 27491 1 0 19978",
  "1 0 20013 1 0 19979 1 0 24038 1 0 21491 1 0 21307 1 0 23447 1 0 23398 1 0 30435 1 0 20225",
  "1 0 36039 1 0 21332 1 0 22812 32 0 12450 1 0 12452 1 0 12454 1 0 12456 1 2 12458 2 0 12461",
  "1 0 12463 1 0 12465 1 0 12467 1 0 12469 1 0 12471 1 0 12473 1 0 12475 1 0 12477 1 0 12479",
  "1 0 12481 1 0 12484 1 0 12486 1 0 12488 1 10 12490 6 0 12498 1 0 12501 1 0 12504 1 0 12507",
  "1 8 12510 5 0 12516 1 0 12518 1 10 12520 6 6 12527 29509 45 42561 64 27 42625 28 0 1098",
  "1 0 1100 133 13 42787 16 61 42803 62 0 42863 9 3 42874 4 0 7545 1 9 42879 13 0 42892 2 0 613",
  "3 3 42897 6 19 42903 20 0 614 1 0 604 1 0 609 1 0 620 1 0 618 2 0 670 1 0 647 1 0 669",
  "1 0 43859 1 15 42933 16 0 42900 1 0 642 1 0 7566 1 3 42952 9 0 42961 6 3 42967 28 0 99",
  "1 0 102 1 0 113 1 0 42998 3 0 295 1 0 339 867 0 42791 1 0 43831 1 0 619 1 0 43858 10 0 653",
  "7 158 5024 19856 0 35912 1 0 26356 1 0 36554 1 0 36040 1 0 28369 1 0 20018 1 0 21477",
  "1 0 40860 1 0 40860 1 0 22865 1 0 37329 1 0 21895 1 0 22856 1 0 25078 1 0 30313 1 0 32645",
  "1 0 34367 1 0 34746 1 0 35064 1 0 37007 1 0 27138 1 0 27931 1 0 28889 1 0 29662 1 0 33853",
  "1 0 37226 1 0 39409 1 0 20098 1 0 21365 1 0 27396 1 0 29211 1 0 34349 1 0 40478 1 0 23888",
  "1 0 28651 1 0 34253 1 0 35172 1 0 25289 1 0 33240 1 0 34847 1 0 24266 1 0 26391 1 0 28010",
  "1 0 29436 1 0 37070 1 0 20358 1 0 20919 1 0 21214 1 0 25796 1 0 27347 1 0 29200 1 0 30439",
  "1 0 32769 1 0 34310 1 0 34396 1 0 36335 1 0 38706 1 0 39791 1 0 40442 1 0 30860 1 0 31103",
  "1 0 32160 1 0 33737 1 0 37636 1 0 40575 1 0 35542 1 0 22751 1 0 24324 1 0 31840 1 0 32894",
  "1 0 29282 1 0 30922 1 0 36034 1 0 38647 1 0 22744 1 0 23650 1 0 27155 1 0 28122 1 0 28431",
  "1 0 32047 1 0 32311 1 0 38475 1 0 21202 1 0 32907 1 0 20956 1 0 20940 1 0 31260 1 0 32190",
  "1 0 33777 1 0 38517 1 0 35712 1 0 25295 1 0 27138 1 0 35582 1 0 20025 1 0 23527 1 0 24594",
  "1 0 29575 1 0 30064 1 0 21271 1 0 30971 1 0 20415 1 0 24489 1 0 19981 1 0 27852 1 0 25976",
  "1 0 32034 1 0 21443 1 0 22622 1 0 30465 1 0 33865 1 0 35498 1 0 27578 1 0 36784 1 0 27784",
  "1 0 25342 1 0 33509 1 0 25504 1 0 30053 1 0 20142 1 0 20841 1 0 20937 1 0 26753 1 0 31975",
  "1 0 33391 1 0 35538 1 0 37327 1 0 21237 1 0 21570 1 0 22899 1 0 24300 1 0 26053 1 0 28670",
  "1 0 31018 1 0 38317 1 0 39530 1 0 40599 1 0 40654 1 0 21147 1 0 26310 1 0 27511 1 0 36706",
  "1 0 24180 1 0 24976 1 0 25088 1 0 25754 1 0 28451 1 0 29001 1 0 29833 1 0 31178 1 0 32244",
  "1 0 32879 1 0 36646 1 0 34030 1 0 36899 1 0 37706 1 0 21015 1 0 21155 1 0 21693 1 0 28872",
  "1 0 35010 1 0 35498 1 0 24265 1 0 24565 1 0 25467 1 0 27566 1 0 31806 1 0 29557 1 0 20196",
  "1 0 22265 1 0 23527 1 0 23994 1 0 24604 1 0 29618 1 0 29801 1 0 32666 1 0 32838 1 0 37428",
  "1 0 38646 1 0 38728 1 0 38936 1 0 20363 1 0 31150 1 0 37300 1 0 38584 1 0 24801 1 0 20102",
  "1 0 20698 1 0 23534 1 0 23615 1 0 26009 1 0 27138 1 0 29134 1 0 30274 1 0 34044 1 0 36988",
  "1 0 40845 1 0 26248 1 0 38446 1 0 21129 1 0 26491 1 0 26611 1 0 27969 1 0 28316 1 0 29705",
  "1 0 30041 1 0 30827 1 0 32016 1 0 39006 1 0 20845 1 0 25134 1 0 38520 1 0 20523 1 0 23833",
  "1 0 28138 1 0 36650 1 0 24459 1 0 24900 1 0 26647 1 0 29575 1 0 38534 1 0 21033 1 0 21519",
  "1 0 23653 1 0 26131 1 0 26446 1 0 26792 1 0 27877 1 0 29702 1 0 30178 1 0 32633 1 0 35023",
  "1 0 35041 1 0 37324 1 0 38626 1 0 21311 1 0 28346 1 0 21533 1 0 29136 1 0 29848 1 0 34298",
  "1 0 38563 1 0 40023 1 0 40607 1 0 26519 1 0 28107 1 0 33256 1 0 31435 1 0 31520 1 0 31890",
  "1 0 29376 1 0 28825 1 0 35672 1 0 20160 1 0 33590 1 0 21050 1 0 20999 1 0 24230 1 0 25299",
  "1 0 31958 1 0 23429 1 0 27934 1 0 26292 1 0 36667 1 0 34892 1 0 38477 1 0 35211 1 0 24275",
  "1 0 20800 1 0 21952 3 0 22618 2 0 26228 3 0 20958 1 0 29482 1 0 30410 1 0 31036 1 0 31070",
  "1 0 31077 1 0 31119 1 0 38742 1 0 31934 1 0 32701 2 0 34322 2 0 35576 3 0 36920 1 0 37117",
  "4 0 39151 1 0 39164 1 0 39208 1 0 40372 1 0 37086 1 0 38583 1 0 20398 1 0 20711 1 0 20813",
  "1 0 21193 1 0 21220 1 0 21329 1 0 21917 1 0 22022 1 0 22120 1 0 22592 1 0 22696 1 0 23652",
  "1 0 23662 1 0 24724 1 0 24936 1 0 24974 1 0 25074 1 0 25935 1 0 26082 1 0 26257 1 0 26757",
  "1 0 28023 1 0 28186 1 0 28450 1 0 29038 1 0 29227 1 0 29730 1 0 30865 1 0 31038 1 0 31049",
  "1 0 31048 1 0 31056 1 0 31062 1 0 31069 1 2 31117 2 0 31296 1 0 31361 1 0 31680 1 0 32244",
  "1 0 32265 1 0 32321 1 0 32626 1 0 32773 1 0 33261 1 0 33401 1 0 33401 1 0 33879 1 0 35088",
  "1 0 35222 1 0 35585 1 0 35641 1 0 36051 1 0 36104 1 0 36790 1 0 36920 1 0 38627 1 0 38911",
  "1 0 38971 1 0 24693 1 0 148206 1 0 33304 3 0 20006 1 0 20917 1 0 20840 1 0 20352 1 0 20805",
  "1 0 20864 1 0 21191 1 0 21242 1 0 21917 1 0 21845 1 0 21913 1 0 21986 1 0 22618 1 0 22707",
  "1 0 22852 1 0 22868 1 0 23138 1 0 23336 1 0 24274 1 0 24281 1 0 24425 1 0 24493 1 0 24792",
  "1 0 24910 1 0 24840 1 0 24974 1 0 24928 1 0 25074 1 0 25140 1 0 25540 1 0 25628 1 0 25682",
  "1 0 25942 1 0 26228 1 0 26391 1 0 26395 1 0 26454 1 0 27513 1 0 27578 1 0 27969 1 0 28379",
  "1 0 28363 1 0 28450 1 0 28702 1 0 29038 1 0 30631 1 0 29237 1 0 29359 1 0 29482 1 0 29809",
  "1 0 29958 1 0 30011 1 0 30237 1 0 30239 1 0 30410 1 0 30427 1 0 30452 1 0 30538 1 0 30528",
  "1 0 30924 1 0 31409 1 0 31680 1 0 31867 1 0 32091 1 0 32244 1 0 32574 1 0 32773 1 0 33618",
  "1 0 33775 1 0 34681 1 0 35137 1 0 35206 1 0 35222 1 0 35519 1 0 35576 1 0 35531 1 0 35585",
  "1 0 35582 1 0 35565 1 0 35641 1 0 35722 1 0 36104 1 0 36664 1 0 36978 1 0 37273 1 0 37494",
  "1 0 38524 1 0 38627 1 0 38742 1 0 38875 1 0 38911 1 0 38923 1 0 38971 1 0 39698 1 0 40860",
  "1 0 141386 1 0 141380 1 0 144341 1 0 15261 1 0 16408 1 0 16441 1 0 152137 1 0 154832",
  "1 0 163539 1 0 40771 1 0 40846 71 0 1506 1 0 1488 1 2 1491 2 4 1499 3 0 1512 1 0 1514 1 0 43",
  "39 0 1649 1 0 1649 1 0 1659 1 0 1659 1 0 1659 1 0 1659 1 0 1662 1 0 1662 1 3 1662 1 3 1662",
  "3 0 1664 1 0 1664 1 0 1658 1 0 1658 1 0 1658 1 0 1658 1 0 1663 1 0 1663 1 0 1663 1 0 1663",
  "1 0 1657 1 0 1657 1 0 1657 1 0 1657 1 0 1700 1 0 1700 1 3 1700 1 3 1700 3 0 1702 1 0 1702",
  "1 0 1668 1 0 1668 1 0 1668 1 0 1668 1 0 1667 1 0 1667 1 0 1667 1 0 1667 1 0 1670 1 0 1670",
  "1 0 1670 1 2 1670 2 0 1671 1 0 1671 1 0 1671 1 0 1677 1 0 1677 1 3 1676 1 3 1676 3 0 1672",
  "1 0 1672 1 0 1688 1 0 1688 1 0 1681 1 0 1681 1 0 1705 1 0 1705 1 0 1705 1 0 1705 1 0 1711",
  "1 0 1711 1 0 1711 1 0 1711 1 0 1715 1 0 1715 1 0 1715 1 0 1715 1 0 1713 1 0 1713 1 0 1713",
  "1 0 1713 1 0 1722 1 2 1722 2 0 1723 1 0 1723 1 0 1723 1 0 1728 1 2 1728 2 0 1729 1 0 1729",
  "1 0 1729 1 0 1726 1 0 1726 1 0 1726 1 0 1726 1 0 1746 1 2 1746 2 0 1747 34 0 1709 1 0 1709",
  "1 0 1709 1 0 1709 1 0 1735 1 0 1735 1 3 1734 1 3 1734 4 0 1739 1 0 1739 1 0 1733 1 0 1733",
  "1 0 1737 1 0 1737 1 0 1744 1 0 1744 1 0 1744 1 0 1744 1 0 1609 1 0 1609 19 0 1740 1 0 1740",
  "1 0 1740 1 0 1740 529 0 44 1 0 12289 2 2 58 2 0 33 1 0 63 1 2 12310 26 0 8212 1 0 8211",
  "1 0 95 1 0 95 1 2 40 2 0 123 1 0 125 1 2 12308 2 2 12304 2 2 12298 2 2 12296 2 6 12300",
  "6 0 91 1 0 93 5 0 95 1 0 95 1 0 95 1 0 44 1 0 12289 3 0 59 1 0 58 1 0 63 1 0 33 1 0 8212",
  "1 2 40 2 0 123 1 0 125 1 2 12308 2 0 35 1 0 38 1 2 42 2 0 45 1 0 60 1 0 62 1 0 61 2 0 92",
  "1 2 36 2 0 64 21 2 1569 2 2 1570 2 2 1571 2 2 1572 2 2 1573 2 0 1574 1 0 1574 1 2 1574",
  "2 2 1575 2 0 1576 1 0 1576 1 2 1576 2 2 1577 2 0 1578 1 0 1578 1 2 1578 2 0 1579 1 0 1579",
  "1 2 1579 2 0 1580 1 0 1580 1 2 1580 2 0 1581 1 0 1581 1 2 1581 2 0 1582 1 0 1582 1 2 1582",
  "2 2 1583 2 2 1584 2 2 1585 2 2 1586 2 0 1587 1 0 1587 1 2 1587 2 0 1588 1 0 1588 1 2 1588",
  "2 0 1589 1 0 1589 1 2 1589 2 0 1590 1 0 1590 1 2 1590 2 0 1591 1 0 1591 1 2 1591 2 0 1592",
  "1 0 1592 1 2 1592 2 0 1593 1 0 1593 1 2 1593 2 0 1594 1 0 1594 1 0 1594 1 0 1601 1 0 1601",
  "1 0 1601 1 2 1601 2 0 1602 1 0 1602 1 2 1602 2 0 1603 1 0 1603 1 2 1603 2 0 1604 1 0 1604",
  "1 2 1604 2 0 1605 1 0 1605 1 2 1605 2 0 1606 1 0 1606 1 2 1606 2 0 1607 1 0 1607 1 2 1607",
  "2 2 1608 2 2 1609 2 0 1610 1 0 1610 1 0 1610 13 62 33 32 50 97 26 70 91 36 2 10629 2 0 46",
  "1 2 12300 2 0 12289 1 0 12539 1 0 12530 1 0 12449 1 0 12451 1 0 12453 1 0 12455 1 0 12457",
  "1 0 12515 1 0 12517 1 0 12519 1 0 12483 1 0 12540 1 0 12450 1 0 12452 1 0 12454 1 0 12456",
  "1 2 12458 2 0 12461 1 0 12463 1 0 12465 1 0 12467 1 0 12469 1 0 12471 1 0 12473 1 0 12475",
  "1 0 12477 1 0 12479 1 0 12481 1 0 12484 1 0 12486 1 0 12488 1 10 12490 6 0 12498 1 0 12501",
  "1 0 12504 1 0 12507 1 8 12510 5 0 12516 1 0 12518 1 10 12520 6 0 12527 1 0 12531 1 2 12441",
  "3 2 4352 2 3 4522 1 0 4354 2 0 4525 1 4 4355 3 10 4528 6 0 4378 1 4 4358 3 0 4385 1 18 4361",
  "13 10 4449 8 10 4455 8 10 4461 8 4 4467 6 2 162 2 0 172 2 0 166 1 0 165 1 0 8361 2 0 9474",
  "1 6 8592 4 0 9632 1 0 9675 1042 78 66600 176 70 66776 192 37 66967 1 9 66968 12 13 66980",
  "16 5 66996 8 0 67004 492 2 720 2 0 230 1 0 665 1 0 595 2 3 675 1 0 43878 2 0 676 1 2 598",
  "2 0 7569 1 0 600 1 0 606 1 0 681 1 0 612 1 0 610 1 0 608 1 0 667 1 0 295 1 0 668 1 0 615",
  "1 0 644 1 2 682 2 0 620 1 0 122628 1 0 42894 1 0 622 1 0 122629 1 0 654 1 0 122630 1 0 248",
  "1 2 630 2 0 113 1 0 634 1 0 122632 1 2 637 2 0 640 1 0 680 1 0 678 1 0 43879 1 0 679 1 0 648",
  "1 0 11377 2 0 655 1 2 673 2 0 664 1 4 448 3 0 122634 1 0 122654 1222 100 68800 3104 62 71872",
  "21920 62 93792 26048 50 97 26 50 97 26 50 97 26 25 97 1 5 98 8 17 106 17 50 97 26 50 97",
  "26 3 97 3 0 100 3 0 103 3 2 106 4 6 110 5 14 115 8 6 97 5 21 102 3 5 105 8 9 113 10 50 97",
  "26 50 97 26 2 97 3 6 100 6 14 106 9 12 115 8 50 97 26 2 97 3 6 100 5 8 105 6 0 111 4 12 115",
  "8 50 97 26 50 97 26 50 97 26 50 97 26 50 97 26 50 97 26 50 97 26 50 97 26 50 97 26 50 97",
  "26 50 97 26 50 97 26 50 97 26 0 305 1 0 567 3 32 945 17 0 952 1 12 963 7 0 8711 1 32 945",
  "17 0 963 1 12 963 7 0 8706 1 0 949 1 0 952 1 0 954 1 0 966 1 0 961 1 0 960 1 32 945 17 0 952",
  "1 12 963 7 0 8711 1 32 945 17 0 963 1 12 963 7 0 8706 1 0 949 1 0 952 1 0 954 1 0 966",
  "1 0 961 1 0 960 1 32 945 17 0 952 1 12 963 7 0 8711 1 32 945 17 0 963 1 12 963 7 0 8706",
  "1 0 949 1 0 952 1 0 954 1 0 966 1 0 961 1 0 960 1 32 945 17 0 952 1 12 963 7 0 8711 1 32 945",
  "17 0 963 1 12 963 7 0 8706 1 0 949 1 0 952 1 0 954 1 0 966 1 0 961 1 0 960 1 32 945 17 0 952",
  "1 12 963 7 0 8711 1 32 945 17 0 963 1 12 963 7 0 8706 1 0 949 1 0 952 1 0 954 1 0 966",
  "1 0 961 1 0 960 1 0 989 1 0 989 3 18 48 10 18 48 10 18 48 10 18 48 10 18 48 2106 16 1072",
  "9 4 1082 3 20 1086 11 0 1099 1 2 1101 2 0 42633 1 0 1241 1 0 1110 1 0 1112 1 0 1257 1 0 1199",
  "1 0 1231 1 16 1072 9 2 1082 2 2 1086 2 0 1089 1 10 1091 6 2 1098 2 0 1169 1 0 1110 1 0 1109",
  "1 0 1119 1 0 1195 1 0 42577 1 0 1201 2195 66 125218 1280 2 1575 2 0 1580 1 0 1583 2 0 1608",
  "1 0 1586 1 0 1581 1 0 1591 1 0 1610 1 6 1603 4 0 1587 1 0 1593 1 0 1601 1 0 1589 1 0 1602",
  "1 0 1585 1 0 1588 1 2 1578 2 0 1582 1 0 1584 1 0 1590 1 0 1592 1 0 1594 1 0 1646 1 0 1722",
  "1 0 1697 1 0 1647 2 0 1576 1 0 1580 2 0 1607 3 0 1581 2 0 1610 1 6 1603 4 0 1587 1 0 1593",
  "1 0 1601 1 0 1589 1 0 1602 2 0 1588 1 2 1578 2 0 1582 2 0 1590 2 0 1594 7 0 1580 5 0 1581",
  "2 0 1610 2 3 1604 3 0 1587 1 0 1593 2 0 1589 1 0 1602 2 0 1588 3 0 1582 2 0 1590 2 0 1594",
  "2 0 1722 2 0 1647 2 0 1576 1 0 1580 2 0 1607 3 0 1581 1 0 1591 1 0 1610 1 3 1603 3 0 1606",
  "1 0 1587 1 0 1593 1 0 1601 1 0 1589 1 0 1602 2 0 1588 1 2 1578 2 0 1582 2 0 1590 1 0 1592",
  "1 0 1594 1 0 1646 2 0 1697 2 2 1575 2 0 1580 1 0 1583 1 2 1607 2 0 1586 1 0 1581 1 0 1591",
  "1 0 1610 2 4 1604 3 0 1587 1 0 1593 1 0 1601 1 0 1589 1 0 1602 1 0 1585 1 0 1588 1 2 1578",
  "2 0 1582 1 0 1584 1 0 1590 1 0 1592 1 0 1594 6 0 1576 1 0 1580 1 0 1583 2 0 1608 1 0 1586",
  "1 0 1581 1 0 1591 1 0 1610 2 4 1604 3 0 1587 1 0 1593 1 0 1601 1 0 1589 1 0 1602 1 0 1585",
  "1 0 1588 1 2 1578 2 0 1582 1 0 1584 1 0 1590 1 0 1592 1 0 1594 624 0 99 1 0 114 4 50 97",
  "210 0 12469 14 0 25163 1 0 23383 1 0 21452 1 0 12487 1 0 20108 1 0 22810 1 0 35299 1 0 22825",
  "1 0 20132 1 0 26144 1 0 28961 1 0 26009 1 0 21069 1 0 24460 1 0 20877 1 0 26032 1 0 21021",
  "1 0 32066 1 0 29983 1 0 36009 1 0 22768 1 0 21561 1 0 28436 1 0 25237 1 0 25429 1 0 19968",
  "1 0 19977 1 0 36938 1 0 24038 1 0 20013 1 0 21491 1 0 25351 1 0 36208 1 0 25171 1 0 31105",
  "1 0 31354 1 0 21512 1 0 28288 1 0 26377 1 0 26376 1 0 30003 1 0 21106 1 0 21942 1 0 37197",
  "21 0 24471 1 0 21487 2463 18 48 64528 0 20029 1 0 20024 1 0 20033 1 0 131362 1 0 20320",
  "1 0 20398 1 0 20411 1 0 20482 1 0 20602 1 0 20633 1 0 20711 1 0 20687 1 0 13470 1 0 132666",
  "1 0 20813 1 0 20820 1 0 20836 1 0 20855 1 0 132380 1 0 13497 1 0 20839 1 0 20877 1 0 132427",
  "1 0 20887 1 0 20900 1 0 20172 1 0 20908 1 0 20917 1 0 168415 1 0 20981 1 0 20995 1 0 13535",
  "1 0 21051 1 0 21062 1 0 21106 1 0 21111 1 0 13589 1 0 21191 1 0 21193 1 0 21220 1 0 21242",
  "1 2 21253 2 0 21271 1 0 21321 1 0 21329 1 0 21338 1 0 21363 1 3 21373 1 0 21375 2 0 21375",
  "1 0 133676 1 0 28784 1 0 21450 1 0 21471 1 0 133987 1 0 21483 1 0 21489 1 0 21510 1 0 21662",
  "1 0 21560 1 0 21576 1 0 21608 1 0 21666 1 0 21750 1 0 21776 1 0 21843 1 0 21859 1 0 21892",
  "1 0 21892 1 0 21913 1 0 21931 1 0 21939 1 0 21954 1 0 22294 1 0 22022 1 0 22295 1 0 22097",
  "1 0 22132 1 0 20999 1 0 22766 1 0 22478 1 0 22516 1 0 22541 1 0 22411 1 0 22578 1 0 22577",
  "1 0 22700 1 0 136420 1 0 22770 1 0 22775 1 0 22790 1 0 22810 1 0 22818 1 0 22882 1 0 136872",
  "1 0 136938 1 0 23020 1 0 23067 1 0 23079 1 0 23000 1 0 23142 1 0 14062 1 0 14076 1 0 23304",
  "1 0 23358 1 0 23358 1 0 137672 1 0 23491 1 0 23512 1 0 23527 1 0 23539 1 0 138008 1 0 23551",
  "1 0 23558 1 0 24403 1 0 23586 1 0 14209 1 0 23648 1 0 23662 1 0 23744 1 0 23693 1 3 138724",
  "1 0 23875 2 0 23918 1 0 23915 1 0 23932 1 2 24033 2 0 14383 1 0 24061 1 0 24104 1 0 24125",
  "1 0 24169 1 0 14434 1 0 139651 1 0 14460 1 0 24240 1 0 24243 1 0 24246 1 0 24266 1 0 172946",
  "1 0 24318 1 0 140081 1 0 140081 1 0 33281 1 0 24354 1 0 24354 1 0 14535 1 0 144056",
  "1 0 156122 1 0 24418 1 0 24427 1 0 14563 1 0 24474 1 0 24525 1 0 24535 1 0 24569 1 0 24705",
  "1 0 14650 1 0 14620 1 0 24724 1 0 141012 1 0 24775 1 0 24904 1 0 24908 1 0 24910 1 0 24908",
  "1 0 24954 1 0 24974 1 0 25010 1 0 24996 1 0 25007 1 0 25054 1 0 25074 1 0 25078 1 0 25104",
  "1 0 25115 1 0 25181 1 0 25265 1 0 25300 1 0 25424 1 0 142092 1 0 25405 1 0 25340 1 0 25448",
  "1 0 25475 1 0 25572 1 0 142321 1 0 25634 1 0 25541 1 0 25513 1 0 14894 1 0 25705 1 0 25726",
  "1 0 25757 1 0 25719 1 0 14956 1 0 25935 1 0 25964 1 0 143370 1 0 26083 1 0 26360 1 0 26185",
  "1 0 15129 1 0 26257 1 0 15112 1 0 15076 1 0 20882 1 0 20885 1 0 26368 1 0 26268 1 0 32941",
  "1 0 17369 1 0 26391 1 0 26395 1 0 26401 1 0 26462 1 0 26451 1 0 144323 1 0 15177 1 0 26618",
  "1 0 26501 1 0 26706 1 0 26757 1 0 144493 1 0 26766 1 0 26655 1 0 26900 1 0 15261 1 0 26946",
  "1 0 27043 1 0 27114 1 0 27304 1 0 145059 1 0 27355 1 0 15384 1 0 27425 1 0 145575 1 0 27476",
  "1 0 15438 1 0 27506 1 0 27551 1 2 27578 2 0 146061 1 0 138507 1 0 146170 1 0 27726",
  "1 0 146620 1 0 27839 1 0 27853 1 0 27751 1 0 27926 1 0 27966 1 0 28023 1 0 27969 1 0 28009",
  "1 0 28024 1 0 28037 1 0 146718 1 0 27956 1 0 28207 1 0 28270 1 0 15667 1 0 28363 1 0 28359",
  "1 0 147153 1 0 28153 1 0 28526 1 0 147294 1 0 147342 1 0 28614 1 0 28729 1 0 28702 1 0 28699",
  "1 0 15766 1 0 28746 1 0 28797 1 0 28791 1 0 28845 1 0 132389 1 0 28997 1 0 148067 1 0 29084",
  "1 0 148395 1 0 29224 1 0 29237 1 0 29264 1 0 149000 1 0 29312 1 0 29333 1 0 149301",
  "1 0 149524 1 0 29562 1 0 29579 1 0 16044 1 0 29605 1 0 16056 1 0 16056 1 0 29767 1 0 29788",
  "1 0 29809 1 0 29829 1 0 29898 1 0 16155 1 0 29988 1 0 150582 1 0 30014 1 0 150674 1 0 30064",
  "1 0 139679 1 0 30224 1 0 151457 1 0 151480 1 0 151620 1 0 16380 1 0 16392 1 0 30452",
  "1 0 151795 1 0 151794 1 0 151833 1 0 151859 1 2 30494 2 0 30495 1 0 30538 1 0 16441",
  "1 0 30603 1 0 16454 1 0 16534 1 0 152605 1 0 30798 1 0 30860 1 0 30924 1 0 16611 1 0 153126",
  "1 0 31062 1 0 153242 1 0 153285 1 0 31119 1 0 31211 1 0 16687 1 0 31296 1 0 31306 1 0 31311",
  "1 0 153980 1 0 154279 1 0 154279 1 0 31470 1 0 16898 1 0 154539 1 0 31686 1 0 31689",
  "1 0 16935 1 0 154752 1 0 31954 1 0 17056 1 0 31976 1 0 31971 1 0 32000 1 0 155526 1 0 32099",
  "1 0 17153 1 0 32199 1 0 32258 1 0 32325 1 0 17204 1 0 156200 1 0 156231 1 0 17241 1 0 156377",
  "1 0 32634 1 0 156478 1 0 32661 1 0 32762 1 0 32773 1 0 156890 1 0 156963 1 0 32864",
  "1 0 157096 1 0 32880 1 0 144223 1 0 17365 1 0 32946 1 0 33027 1 0 17419 1 0 33086 1 0 23221",
  "1 0 157607 1 0 157621 1 0 144275 1 0 144284 1 0 33281 1 0 33284 1 0 36766 1 0 17515",
  "1 0 33425 1 0 33419 1 0 33437 1 0 21171 1 0 33457 1 0 33459 1 0 33469 1 0 33510 1 0 158524",
  "1 0 33509 1 0 33565 1 0 33635 1 0 33709 1 0 33571 1 0 33725 1 0 33767 1 0 33879 1 0 33619",
  "1 0 33738 1 0 33740 1 0 33756 1 0 158774 1 0 159083 1 0 158933 1 0 17707 1 0 34033 1 0 34035",
  "1 0 34070 1 0 160714 1 0 34148 1 0 159532 1 0 17757 1 0 17761 1 0 159665 1 0 159954",
  "1 0 17771 1 0 34384 1 0 34396 1 0 34407 1 0 34409 1 0 34473 1 0 34440 1 0 34574 1 0 34530",
  "1 0 34681 1 0 34600 1 0 34667 1 0 34694 1 0 17879 1 0 34785 1 0 34817 1 0 17913 1 0 34912",
  "1 0 34915 1 0 161383 1 0 35031 1 0 35038 1 0 17973 1 0 35066 1 0 13499 1 0 161966 1 0 162150",
  "1 0 18110 1 0 18119 1 0 35488 1 0 35565 1 0 35722 1 0 35925 1 0 162984 1 0 36011 1 0 36033",
  "1 0 36123 1 0 36215 1 0 163631 1 0 133124 1 0 36299 1 0 36284 1 0 36336 1 0 133342 1 0 36564",
  "1 0 36664 1 0 165330 1 0 165357 1 0 37012 1 0 37105 1 0 37137 1 0 165678 1 0 37147 1 0 37432",
  "1 2 37591 2 0 37500 1 0 37881 1 0 37909 1 0 166906 1 0 38283 1 0 18837 1 0 38327 1 0 167287",
  "1 0 18918 1 0 38595 1 0 23986 1 0 38691 1 0 168261 1 0 168474 1 0 19054 1 0 19062 1 0 38880",
  "1 0 168970 1 0 19122 1 0 169110 1 0 38923 1 0 38923 1 0 38953 1 0 169398 1 0 39138 1 0 19251",
  "1 0 39209 1 0 39335 1 0 39362 1 0 39422 1 0 19406 1 0 170800 1 0 39698 1 0 40000 1 0 40189",
  "1 0 19662 1 0 19693 1 0 40295 1 0 172238 1 0 19704 1 0 172293 1 0 172558 1 0 172689",
  "1 0 40635 1 0 19798 1 0 40697 1 0 40702 1 0 40709 1 0 40719 1 0 40726 1 0 40763 1 0 173568"]

/-- Reads expansions, each as its distance from the one before it, how many characters it has,
and these. -/
def expansionsOfGaps (prev : Nat) : List Nat → List (Nat × List Nat)
  | gap :: count :: rest =>
    (prev + gap, rest.take count) :: expansionsOfGaps (prev + gap) (rest.drop count)
  | _ => []
termination_by l => l.length
decreasing_by simp only [List.length_cons, List.length_drop]; omega

/-- The characters from U+0080 on that several others stand for. -/
def expansions : List (Nat × List Nat) := expansionsOfGaps 0 <| numbers [
  "168 2 32 776 7 2 32 772 5 2 32 769 4 2 32 807 4 3 49 8260 52 1 3 49 8260 50 1 3 51 8260 52",
  "114 2 105 775 2 2 105 106 1 2 105 106 12 2 108 183 1 2 108 183 9 2 700 110 123 2 100 382",
  "1 2 100 382 1 2 100 382 1 2 108 106 1 2 108 106 1 2 108 106 1 2 110 106 1 2 110 106",
  "1 2 110 106 37 2 100 122 1 2 100 122 1 2 100 122 229 2 32 774 1 2 32 775 1 2 32 778",
  "1 2 32 808 1 2 32 771 1 2 32 779 103 2 776 769 54 2 32 953 10 2 32 769 1 3 32 776 769",
  "514 2 1381 1410 238 2 1575 1652 1 2 1608 1652 1 2 1735 1652 1 2 1610 1652 736 2 2325 2364",
  "1 2 2326 2364 1 2 2327 2364 1 2 2332 2364 1 2 2337 2364 1 2 2338 2364 1 2 2347 2364",
  "1 2 2351 2364 125 2 2465 2492 1 2 2466 2492 2 2 2479 2492 84 2 2610 2620 3 2 2616 2620",
  "35 2 2582 2620 1 2 2583 2620 1 2 2588 2620 3 2 2603 2620 254 2 2849 2876 1 2 2850 2876",
  "726 2 3661 3634 128 2 3789 3762 41 2 3755 3737 1 2 3755 3745 102 2 3906 4023 10 2 3916 4023",
  "5 2 3921 4023 5 2 3926 4023 5 2 3931 4023 13 2 3904 4021 10 2 3953 3954 2 2 3953 3956",
  "1 2 4018 3968 1 3 4018 3953 3968 1 2 4019 3968 1 3 4019 3953 3968 8 2 3953 3968",
  "18 2 3986 4023 10 2 3996 4023 5 2 4001 4023 5 2 4006 4023 5 2 4011 4023 13 2 3984 4021",
  "3809 2 97 702 230 2 7936 953 1 2 7937 953 1 2 7938 953 1 2 7939 953 1 2 7940 953",
  "1 2 7941 953 1 2 7942 953 1 2 7943 953 1 2 7936 953 1 2 7937 953 1 2 7938 953 1 2 7939 953",
  "1 2 7940 953 1 2 7941 953 1 2 7942 953 1 2 7943 953 1 2 7968 953 1 2 7969 953 1 2 7970 953",
  "1 2 7971 953 1 2 7972 953 1 2 7973 953 1 2 7974 953 1 2 7975 953 1 2 7968 953 1 2 7969 953",
  "1 2 7970 953 1 2 7971 953 1 2 7972 953 1 2 7973 953 1 2 7974 953 1 2 7975 953 1 2 8032 953",
  "1 2 8033 953 1 2 8034 953 1 2 8035 953 1 2 8036 953 1 2 8037 953 1 2 8038 953 1 2 8039 953",
  "1 2 8032 953 1 2 8033 953 1 2 8034 953 1 2 8035 953 1 2 8036 953 1 2 8037 953 1 2 8038 953",
  "1 2 8039 953 3 2 8048 953 1 2 945 953 1 2 940 953 3 2 8118 953 5 2 945 953 1 2 32 787",
  "2 2 32 787 1 2 32 834 1 3 32 776 834 1 2 8052 953 1 2 951 953 1 2 942 953 3 2 8134 953",
  "5 2 951 953 1 3 32 787 768 1 3 32 787 769 1 3 32 787 834 14 3 32 788 768 1 3 32 788 769",
  "1 3 32 788 834 14 3 32 776 768 1 3 32 776 769 4 2 8060 953 1 2 969 953 1 2 974 953",
  "3 2 8182 953 5 2 969 953 1 2 32 769 1 2 32 788 25 2 32 819 28 2 8242 8242 1 3 8242 8242 8242",
  "2 2 8245 8245 1 3 8245 8245 8245 5 2 33 33 2 2 32 773 9 2 63 63 1 2 63 33 1 2 33 63",
  "14 4 8242 8242 8242 8242 81 2 114 115 88 3 97 47 99 1 3 97 47 115 2 2 176 99 2 3 99 47 111",
  "1 3 99 47 117 3 2 176 102 13 2 110 111 10 2 115 109 1 3 116 101 108 1 2 116 109",
  "25 3 102 97 120 21 3 49 8260 55 1 3 49 8260 57 1 4 49 8260 49 48 1 3 49 8260 51",
  "1 3 50 8260 51 1 3 49 8260 53 1 3 50 8260 53 1 3 51 8260 53 1 3 52 8260 53 1 3 49 8260 54",
  "1 3 53 8260 54 1 3 49 8260 56 1 3 51 8260 56 1 3 53 8260 56 1 3 55 8260 56 1 2 49 8260",
  "2 2 105 105 1 3 105 105 105 1 2 105 118 2 2 118 105 1 3 118 105 105 1 4 118 105 105 105",
  "1 2 105 120 2 2 120 105 1 3 120 105 105 6 2 105 105 1 3 105 105 105 1 2 105 118 2 2 118 105",
  "1 3 118 105 105 1 4 118 105 105 105 1 2 105 120 2 2 120 105 1 3 120 105 105 14 3 48 8260 51",
  "163 2 8747 8747 1 3 8747 8747 8747 2 2 8750 8750 1 3 8750 8750 8750 569 2 49 48 1 2 49 49",
  "1 2 49 50 1 2 49 51 1 2 49 52 1 2 49 53 1 2 49 54 1 2 49 55 1 2 49 56 1 2 49 57 1 2 50 48",
  "1 3 40 49 41 1 3 40 50 41 1 3 40 51 41 1 3 40 52 41 1 3 40 53 41 1 3 40 54 41 1 3 40 55 41",
  "1 3 40 56 41 1 3 40 57 41 1 4 40 49 48 41 1 4 40 49 49 41 1 4 40 49 50 41 1 4 40 49 51 41",
  "1 4 40 49 52 41 1 4 40 49 53 41 1 4 40 49 54 41 1 4 40 49 55 41 1 4 40 49 56 41",
  "1 4 40 49 57 41 1 4 40 50 48 41 21 3 40 97 41 1 3 40 98 41 1 3 40 99 41 1 3 40 100 41",
  "1 3 40 101 41 1 3 40 102 41 1 3 40 103 41 1 3 40 104 41 1 3 40 105 41 1 3 40 106 41",
  "1 3 40 107 41 1 3 40 108 41 1 3 40 109 41 1 3 40 110 41 1 3 40 111 41 1 3 40 112 41",
  "1 3 40 113 41 1 3 40 114 41 1 3 40 115 41 1 3 40 116 41 1 3 40 117 41 1 3 40 118 41",
  "1 3 40 119 41 1 3 40 120 41 1 3 40 121 41 1 3 40 122 41 1367 4 8747 8747 8747 8747",
  "104 3 58 58 61 1 2 61 61 1 3 61 61 61 102 2 10973 824 1471 2 32 12441 1 2 32 12442",
  "3 2 12424 12426 96 2 12467 12488 257 3 40 4352 41 1 3 40 4354 41 1 3 40 4355 41",
  "1 3 40 4357 41 1 3 40 4358 41 1 3 40 4359 41 1 3 40 4361 41 1 3 40 4363 41 1 3 40 4364 41",
  "1 3 40 4366 41 1 3 40 4367 41 1 3 40 4368 41 1 3 40 4369 41 1 3 40 4370 41 1 3 40 44032 41",
  "1 3 40 45208 41 1 3 40 45796 41 1 3 40 46972 41 1 3 40 47560 41 1 3 40 48148 41",
  "1 3 40 49324 41 1 3 40 50500 41 1 3 40 51088 41 1 3 40 52264 41 1 3 40 52852 41",
  "1 3 40 53440 41 1 3 40 54028 41 1 3 40 54616 41 1 3 40 51452 41 1 4 40 50724 51204 41",
  "1 4 40 50724 54980 41 2 3 40 19968 41 1 3 40 20108 41 1 3 40 19977 41 1 3 40 22235 41",
  "1 3 40 20116 41 1 3 40 20845 41 1 3 40 19971 41 1 3 40 20843 41 1 3 40 20061 41",
  "1 3 40 21313 41 1 3 40 26376 41 1 3 40 28779 41 1 3 40 27700 41 1 3 40 26408 41",
  "1 3 40 37329 41 1 3 40 22303 41 1 3 40 26085 41 1 3 40 26666 41 1 3 40 26377 41",
  "1 3 40 31038 41 1 3 40 21517 41 1 3 40 29305 41 1 3 40 36001 41 1 3 40 31069 41",
  "1 3 40 21172 41 1 3 40 20195 41 1 3 40 21628 41 1 3 40 23398 41 1 3 40 30435 41",
  "1 3 40 20225 41 1 3 40 36039 41 1 3 40 21332 41 1 3 40 31085 41 1 3 40 20241 41",
  "1 3 40 33258 41 1 3 40 33267 41 13 3 112 116 101 1 2 50 49 1 2 50 50 1 2 50 51 1 2 50 52",
  "1 2 50 53 1 2 50 54 1 2 50 55 1 2 50 56 1 2 50 57 1 2 51 48 1 2 51 49 1 2 51 50 1 2 51 51",
  "1 2 51 52 1 2 51 53 29 2 52280 44256 1 2 51452 51032 52 2 51 54 1 2 51 55 1 2 51 56",
  "1 2 51 57 1 2 52 48 1 2 52 49 1 2 52 50 1 2 52 51 1 2 52 52 1 2 52 53 1 2 52 54 1 2 52 55",
  "1 2 52 56 1 2 52 57 1 2 53 48 1 2 49 26376 1 2 50 26376 1 2 51 26376 1 2 52 26376",
  "1 2 53 26376 1 2 54 26376 1 2 55 26376 1 2 56 26376 1 2 57 26376 1 3 49 48 26376",
  "1 3 49 49 26376 1 3 49 50 26376 1 2 104 103 1 3 101 114 103 1 2 101 118 1 3 108 116 100",
  "48 2 20196 21644 1 4 12450 12497 12540 12488 1 4 12450 12523 12501 12449",
  "1 4 12450 12531 12506 12450 1 3 12450 12540 12523 1 4 12452 12491 12531 12464",
  "1 3 12452 12531 12481 1 3 12454 12457 12531 1 5 12456 12473 12463 12540 12489",
  "1 4 12456 12540 12459 12540 1 3 12458 12531 12473 1 3 12458 12540 12512",
  "1 3 12459 12452 12522 1 4 12459 12521 12483 12488 1 4 12459 12525 12522 12540",
  "1 3 12460 12525 12531 1 3 12460 12531 12510 1 2 12462 12460 1 3 12462 12491 12540",
  "1 4 12461 12517 12522 12540 1 4 12462 12523 12480 12540 1 2 12461 12525",
  "1 5 12461 12525 12464 12521 12512 1 6 12461 12525 12513 12540 12488 12523",
  "1 5 12461 12525 12527 12483 12488 1 3 12464 12521 12512 1 5 12464 12521 12512 12488 12531",
  "1 5 12463 12523 12476 12452 12525 1 4 12463 12525 12540 12493 1 3 12465 12540 12473",
  "1 3 12467 12523 12490 1 3 12467 12540 12509 1 4 12469 12452 12463 12523",
  "1 5 12469 12531 12481 12540 12512 1 4 12471 12522 12531 12464 1 3 12475 12531 12481",
  "1 3 12475 12531 12488 1 3 12480 12540 12473 1 2 12487 12471 1 2 12489 12523 1 2 12488 12531",
  "1 2 12490 12494 1 3 12494 12483 12488 1 3 12495 12452 12484",
  "1 5 12497 12540 12475 12531 12488 1 3 12497 12540 12484 1 4 12496 12540 12524 12523",
  "1 5 12500 12450 12473 12488 12523 1 3 12500 12463 12523 1 2 12500 12467 1 2 12499 12523",
  "1 5 12501 12449 12521 12483 12489 1 4 12501 12451 12540 12488",
  "1 5 12502 12483 12471 12455 12523 1 3 12501 12521 12531 1 5 12504 12463 12479 12540 12523",
  "1 2 12506 12477 1 3 12506 12491 12498 1 3 12504 12523 12484 1 3 12506 12531 12473",
  "1 3 12506 12540 12472 1 3 12505 12540 12479 1 4 12509 12452 12531 12488",
  "1 3 12508 12523 12488 1 2 12507 12531 1 3 12509 12531 12489 1 3 12507 12540 12523",
  "1 3 12507 12540 12531 1 4 12510 12452 12463 12525 1 3 12510 12452 12523",
  "1 3 12510 12483 12495 1 3 12510 12523 12463 1 5 12510 12531 12471 12519 12531",
  "1 4 12511 12463 12525 12531 1 2 12511 12522 1 5 12511 12522 12496 12540 12523",
  "1 2 12513 12460 1 4 12513 12460 12488 12531 1 4 12513 12540 12488 12523",
  "1 3 12516 12540 12489 1 3 12516 12540 12523 1 3 12518 12450 12531",
  "1 4 12522 12483 12488 12523 1 2 12522 12521 1 3 12523 12500 12540",
  "1 4 12523 12540 12502 12523 1 2 12524 12512 1 5 12524 12531 12488 12466 12531",
  "1 3 12527 12483 12488 1 2 48 28857 1 2 49 28857 1 2 50 28857 1 2 51 28857 1 2 52 28857",
  "1 2 53 28857 1 2 54 28857 1 2 55 28857 1 2 56 28857 1 2 57 28857 1 3 49 48 28857",
  "1 3 49 49 28857 1 3 49 50 28857 1 3 49 51 28857 1 3 49 52 28857 1 3 49 53 28857",
  "1 3 49 54 28857 1 3 49 55 28857 1 3 49 56 28857 1 3 49 57 28857 1 3 50 48 28857",
  "1 3 50 49 28857 1 3 50 50 28857 1 3 50 51 28857 1 3 50 52 28857 1 3 104 112 97 1 2 100 97",
  "1 2 97 117 1 3 98 97 114 1 2 111 118 1 2 112 99 1 2 100 109 1 3 100 109 50 1 3 100 109 51",
  "1 2 105 117 1 2 24179 25104 1 2 26157 21644 1 2 22823 27491 1 2 26126 27835",
  "1 4 26666 24335 20250 31038 1 2 112 97 1 2 110 97 1 2 956 97 1 2 109 97 1 2 107 97",
  "1 2 107 98 1 2 109 98 1 2 103 98 1 3 99 97 108 1 4 107 99 97 108 1 2 112 102 1 2 110 102",
  "1 2 956 102 1 2 956 103 1 2 109 103 1 2 107 103 1 2 104 122 1 3 107 104 122 1 3 109 104 122",
  "1 3 103 104 122 1 3 116 104 122 1 2 956 108 1 2 109 108 1 2 100 108 1 2 107 108 1 2 102 109",
  "1 2 110 109 1 2 956 109 1 2 109 109 1 2 99 109 1 2 107 109 1 3 109 109 50 1 3 99 109 50",
  "1 2 109 50 1 3 107 109 50 1 3 109 109 51 1 3 99 109 51 1 2 109 51 1 3 107 109 51",
  "1 3 109 8725 115 1 4 109 8725 115 50 1 2 112 97 1 3 107 112 97 1 3 109 112 97 1 3 103 112 97",
  "1 3 114 97 100 1 5 114 97 100 8725 115 1 6 114 97 100 8725 115 50 1 2 112 115 1 2 110 115",
  "1 2 956 115 1 2 109 115 1 2 112 118 1 2 110 118 1 2 956 118 1 2 109 118 1 2 107 118",
  "1 2 109 118 1 2 112 119 1 2 110 119 1 2 956 119 1 2 109 119 1 2 107 119 1 2 109 119",
  "1 2 107 969 1 2 109 969 2 2 98 113 1 2 99 99 1 2 99 100 1 4 99 8725 107 103 2 2 100 98",
  "1 2 103 121 1 2 104 97 1 2 104 112 1 2 105 110 1 2 107 107 1 2 107 109 1 2 107 116",
  "1 2 108 109 1 2 108 110 1 3 108 111 103 1 2 108 120 1 2 109 98 1 3 109 105 108",
  "1 3 109 111 108 1 2 112 104 2 3 112 112 109 1 2 112 114 1 2 115 114 1 2 115 118 1 2 119 98",
  "1 3 118 8725 109 1 3 97 8725 109 1 2 49 26085 1 2 50 26085 1 2 51 26085 1 2 52 26085",
  "1 2 53 26085 1 2 54 26085 1 2 55 26085 1 2 56 26085 1 2 57 26085 1 3 49 48 26085",
  "1 3 49 49 26085 1 3 49 50 26085 1 3 49 51 26085 1 3 49 52 26085 1 3 49 53 26085",
  "1 3 49 54 26085 1 3 49 55 26085 1 3 49 56 26085 1 3 49 57 26085 1 3 50 48 26085",
  "1 3 50 49 26085 1 3 50 50 26085 1 3 50 51 26085 1 3 50 52 26085 1 3 50 53 26085",
  "1 3 50 54 26085 1 3 50 55 26085 1 3 50 56 26085 1 3 50 57 26085 1 3 51 48 26085",
  "1 3 51 49 26085 1 3 103 97 108 50945 2 102 102 1 2 102 105 1 2 102 108 1 3 102 102 105",
  "1 3 102 102 108 1 2 115 116 1 2 115 116 13 2 1396 1398 1 2 1396 1381 1 2 1396 1387",
  "1 2 1406 1398 1 2 1396 1389 6 2 1497 1460 2 2 1522 1463 11 2 1513 1473 1 2 1513 1474",
  "1 3 1513 1468 1473 1 3 1513 1468 1474 1 2 1488 1463 1 2 1488 1464 1 2 1488 1468",
  "1 2 1489 1468 1 2 1490 1468 1 2 1491 1468 1 2 1492 1468 1 2 1493 1468 1 2 1494 1468",
  "2 2 1496 1468 1 2 1497 1468 1 2 1498 1468 1 2 1499 1468 1 2 1500 1468 2 2 1502 1468",
  "2 2 1504 1468 1 2 1505 1468 2 2 1507 1468 1 2 1508 1468 2 2 1510 1468 1 2 1511 1468",
  "1 2 1512 1468 1 2 1513 1468 1 2 1514 1468 1 2 1493 1465 1 2 1489 1471 1 2 1499 1471",
  "1 2 1508 1471 1 2 1488 1500 142 2 1735 1652 13 2 1574 1575 1 2 1574 1575 1 2 1574 1749",
  "1 2 1574 1749 1 2 1574 1608 1 2 1574 1608 1 2 1574 1735 1 2 1574 1735 1 2 1574 1734",
  "1 2 1574 1734 1 2 1574 1736 1 2 1574 1736 1 2 1574 1744 1 2 1574 1744 1 2 1574 1744",
  "1 2 1574 1609 1 2 1574 1609 1 2 1574 1609 5 2 1574 1580 1 2 1574 1581 1 2 1574 1605",
  "1 2 1574 1609 1 2 1574 1610 1 2 1576 1580 1 2 1576 1581 1 2 1576 1582 1 2 1576 1605",
  "1 2 1576 1609 1 2 1576 1610 1 2 1578 1580 1 2 1578 1581 1 2 1578 1582 1 2 1578 1605",
  "1 2 1578 1609 1 2 1578 1610 1 2 1579 1580 1 2 1579 1605 1 2 1579 1609 1 2 1579 1610",
  "1 2 1580 1581 1 2 1580 1605 1 2 1581 1580 1 2 1581 1605 1 2 1582 1580 1 2 1582 1581",
  "1 2 1582 1605 1 2 1587 1580 1 2 1587 1581 1 2 1587 1582 1 2 1587 1605 1 2 1589 1581",
  "1 2 1589 1605 1 2 1590 1580 1 2 1590 1581 1 2 1590 1582 1 2 1590 1605 1 2 1591 1581",
  "1 2 1591 1605 1 2 1592 1605 1 2 1593 1580 1 2 1593 1605 1 2 1594 1580 1 2 1594 1605",
  "1 2 1601 1580 1 2 1601 1581 1 2 1601 1582 1 2 1601 1605 1 2 1601 1609 1 2 1601 1610",
  "1 2 1602 1581 1 2 1602 1605 1 2 1602 1609 1 2 1602 1610 1 2 1603 1575 1 2 1603 1580",
  "1 2 1603 1581 1 2 1603 1582 1 2 1603 1604 1 2 1603 1605 1 2 1603 1609 1 2 1603 1610",
  "1 2 1604 1580 1 2 1604 1581 1 2 1604 1582 1 2 1604 1605 1 2 1604 1609 1 2 1604 1610",
  "1 2 1605 1580 1 2 1605 1581 1 2 1605 1582 1 2 1605 1605 1 2 1605 1609 1 2 1605 1610",
  "1 2 1606 1580 1 2 1606 1581 1 2 1606 1582 1 2 1606 1605 1 2 1606 1609 1 2 1606 1610",
  "1 2 1607 1580 1 2 1607 1605 1 2 1607 1609 1 2 1607 1610 1 2 1610 1580 1 2 1610 1581",
  "1 2 1610 1582 1 2 1610 1605 1 2 1610 1609 1 2 1610 1610 1 2 1584 1648 1 2 1585 1648",
  "1 2 1609 1648 1 3 32 1612 1617 1 3 32 1613 1617 1 3 32 1614 1617 1 3 32 1615 1617",
  "1 3 32 1616 1617 1 3 32 1617 1648 1 2 1574 1585 1 2 1574 1586 1 2 1574 1605 1 2 1574 1606",
  "1 2 1574 1609 1 2 1574 1610 1 2 1576 1585 1 2 1576 1586 1 2 1576 1605 1 2 1576 1606",
  "1 2 1576 1609 1 2 1576 1610 1 2 1578 1585 1 2 1578 1586 1 2 1578 1605 1 2 1578 1606",
  "1 2 1578 1609 1 2 1578 1610 1 2 1579 1585 1 2 1579 1586 1 2 1579 1605 1 2 1579 1606",
  "1 2 1579 1609 1 2 1579 1610 1 2 1601 1609 1 2 1601 1610 1 2 1602 1609 1 2 1602 1610",
  "1 2 1603 1575 1 2 1603 1604 1 2 1603 1605 1 2 1603 1609 1 2 1603 1610 1 2 1604 1605",
  "1 2 1604 1609 1 2 1604 1610 1 2 1605 1575 1 2 1605 1605 1 2 1606 1585 1 2 1606 1586",
  "1 2 1606 1605 1 2 1606 1606 1 2 1606 1609 1 2 1606 1610 1 2 1609 1648 1 2 1610 1585",
  "1 2 1610 1586 1 2 1610 1605 1 2 1610 1606 1 2 1610 1609 1 2 1610 1610 1 2 1574 1580",
  "1 2 1574 1581 1 2 1574 1582 1 2 1574 1605 1 2 1574 1607 1 2 1576 1580 1 2 1576 1581",
  "1 2 1576 1582 1 2 1576 1605 1 2 1576 1607 1 2 1578 1580 1 2 1578 1581 1 2 1578 1582",
  "1 2 1578 1605 1 2 1578 1607 1 2 1579 1605 1 2 1580 1581 1 2 1580 1605 1 2 1581 1580",
  "1 2 1581 1605 1 2 1582 1580 1 2 1582 1605 1 2 1587 1580 1 2 1587 1581 1 2 1587 1582",
  "1 2 1587 1605 1 2 1589 1581 1 2 1589 1582 1 2 1589 1605 1 2 1590 1580 1 2 1590 1581",
  "1 2 1590 1582 1 2 1590 1605 1 2 1591 1581 1 2 1592 1605 1 2 1593 1580 1 2 1593 1605",
  "1 2 1594 1580 1 2 1594 1605 1 2 1601 1580 1 2 1601 1581 1 2 1601 1582 1 2 1601 1605",
  "1 2 1602 1581 1 2 1602 1605 1 2 1603 1580 1 2 1603 1581 1 2 1603 1582 1 2 1603 1604",
  "1 2 1603 1605 1 2 1604 1580 1 2 1604 1581 1 2 1604 1582 1 2 1604 1605 1 2 1604 1607",
  "1 2 1605 1580 1 2 1605 1581 1 2 1605 1582 1 2 1605 1605 1 2 1606 1580 1 2 1606 1581",
  "1 2 1606 1582 1 2 1606 1605 1 2 1606 1607 1 2 1607 1580 1 2 1607 1605 1 2 1607 1648",
  "1 2 1610 1580 1 2 1610 1581 1 2 1610 1582 1 2 1610 1605 1 2 1610 1607 1 2 1574 1605",
  "1 2 1574 1607 1 2 1576 1605 1 2 1576 1607 1 2 1578 1605 1 2 1578 1607 1 2 1579 1605",
  "1 2 1579 1607 1 2 1587 1605 1 2 1587 1607 1 2 1588 1605 1 2 1588 1607 1 2 1603 1604",
  "1 2 1603 1605 1 2 1604 1605 1 2 1606 1605 1 2 1606 1607 1 2 1610 1605 1 2 1610 1607",
  "1 3 1600 1614 1617 1 3 1600 1615 1617 1 3 1600 1616 1617 1 2 1591 1609 1 2 1591 1610",
  "1 2 1593 1609 1 2 1593 1610 1 2 1594 1609 1 2 1594 1610 1 2 1587 1609 1 2 1587 1610",
  "1 2 1588 1609 1 2 1588 1610 1 2 1581 1609 1 2 1581 1610 1 2 1580 1609 1 2 1580 1610",
  "1 2 1582 1609 1 2 1582 1610 1 2 1589 1609 1 2 1589 1610 1 2 1590 1609 1 2 1590 1610",
  "1 2 1588 1580 1 2 1588 1581 1 2 1588 1582 1 2 1588 1605 1 2 1588 1585 1 2 1587 1585",
  "1 2 1589 1585 1 2 1590 1585 1 2 1591 1609 1 2 1591 1610 1 2 1593 1609 1 2 1593 1610",
  "1 2 1594 1609 1 2 1594 1610 1 2 1587 1609 1 2 1587 1610 1 2 1588 1609 1 2 1588 1610",
  "1 2 1581 1609 1 2 1581 1610 1 2 1580 1609 1 2 1580 1610 1 2 1582 1609 1 2 1582 1610",
  "1 2 1589 1609 1 2 1589 1610 1 2 1590 1609 1 2 1590 1610 1 2 1588 1580 1 2 1588 1581",
  "1 2 1588 1582 1 2 1588 1605 1 2 1588 1585 1 2 1587 1585 1 2 1589 1585 1 2 1590 1585",
  "1 2 1588 1580 1 2 1588 1581 1 2 1588 1582 1 2 1588 1605 1 2 1587 1607 1 2 1588 1607",
  "1 2 1591 1605 1 2 1587 1580 1 2 1587 1581 1 2 1587 1582 1 2 1588 1580 1 2 1588 1581",
  "1 2 1588 1582 1 2 1591 1605 1 2 1592 1605 1 2 1575 1611 1 2 1575 1611 19 3 1578 1580 1605",
  "1 3 1578 1581 1580 1 3 1578 1581 1580 1 3 1578 1581 1605 1 3 1578 1582 1605",
  "1 3 1578 1605 1580 1 3 1578 1605 1581 1 3 1578 1605 1582 1 3 1580 1605 1581",
  "1 3 1580 1605 1581 1 3 1581 1605 1610 1 3 1581 1605 1609 1 3 1587 1581 1580",
  "1 3 1587 1580 1581 1 3 1587 1580 1609 1 3 1587 1605 1581 1 3 1587 1605 1581",
  "1 3 1587 1605 1580 1 3 1587 1605 1605 1 3 1587 1605 1605 1 3 1589 1581 1581",
  "1 3 1589 1581 1581 1 3 1589 1605 1605 1 3 1588 1581 1605 1 3 1588 1581 1605",
  "1 3 1588 1580 1610 1 3 1588 1605 1582 1 3 1588 1605 1582 1 3 1588 1605 1605",
  "1 3 1588 1605 1605 1 3 1590 1581 1609 1 3 1590 1582 1605 1 3 1590 1582 1605",
  "1 3 1591 1605 1581 1 3 1591 1605 1581 1 3 1591 1605 1605 1 3 1591 1605 1610",
  "1 3 1593 1580 1605 1 3 1593 1605 1605 1 3 1593 1605 1605 1 3 1593 1605 1609",
  "1 3 1594 1605 1605 1 3 1594 1605 1610 1 3 1594 1605 1609 1 3 1601 1582 1605",
  "1 3 1601 1582 1605 1 3 1602 1605 1581 1 3 1602 1605 1605 1 3 1604 1581 1605",
  "1 3 1604 1581 1610 1 3 1604 1581 1609 1 3 1604 1580 1580 1 3 1604 1580 1580",
  "1 3 1604 1582 1605 1 3 1604 1582 1605 1 3 1604 1605 1581 1 3 1604 1605 1581",
  "1 3 1605 1581 1580 1 3 1605 1581 1605 1 3 1605 1581 1610 1 3 1605 1580 1581",
  "1 3 1605 1580 1605 1 3 1605 1582 1580 1 3 1605 1582 1605 3 3 1605 1580 1582",
  "1 3 1607 1605 1580 1 3 1607 1605 1605 1 3 1606 1581 1605 1 3 1606 1581 1609",
  "1 3 1606 1580 1605 1 3 1606 1580 1605 1 3 1606 1580 1609 1 3 1606 1605 1610",
  "1 3 1606 1605 1609 1 3 1610 1605 1605 1 3 1610 1605 1605 1 3 1576 1582 1610",
  "1 3 1578 1580 1610 1 3 1578 1580 1609 1 3 1578 1582 1610 1 3 1578 1582 1609",
  "1 3 1578 1605 1610 1 3 1578 1605 1609 1 3 1580 1605 1610 1 3 1580 1581 1609",
  "1 3 1580 1605 1609 1 3 1587 1582 1609 1 3 1589 1581 1610 1 3 1588 1581 1610",
  "1 3 1590 1581 1610 1 3 1604 1580 1610 1 3 1604 1605 1610 1 3 1610 1581 1610",
  "1 3 1610 1580 1610 1 3 1610 1605 1610 1 3 1605 1605 1610 1 3 1602 1605 1610",
  "1 3 1606 1581 1610 1 3 1602 1605 1581 1 3 1604 1581 1605 1 3 1593 1605 1610",
  "1 3 1603 1605 1610 1 3 1606 1580 1581 1 3 1605 1582 1610 1 3 1604 1580 1605",
  "1 3 1603 1605 1605 1 3 1604 1580 1605 1 3 1606 1580 1581 1 3 1580 1581 1610",
  "1 3 1581 1580 1610 1 3 1605 1580 1610 1 3 1601 1605 1610 1 3 1576 1581 1610",
  "1 3 1603 1605 1605 1 3 1593 1580 1605 1 3 1589 1605 1605 1 3 1587 1582 1610",
  "1 3 1606 1580 1610 41 3 1589 1604 1746 1 3 1602 1604 1746 1 4 1575 1604 1604 1607",
  "1 4 1575 1603 1576 1585 1 4 1605 1581 1605 1583 1 4 1589 1604 1593 1605",
  "1 4 1585 1587 1608 1604 1 4 1593 1604 1610 1607 1 4 1608 1587 1604 1605 1 3 1589 1604 1609",
  "1 18 1589 1604 1609 32 1575 1604 1604 1607 32 1593 1604 1610 1607 32 1608 1587 1604 1605",
  "1 8 1580 1604 32 1580 1604 1575 1604 1607 1 4 1585 1740 1575 1604 77 2 32 773 1 2 32 773",
  "1 2 32 773 1 2 32 773 36 2 32 1611 1 2 1600 1611 1 2 32 1612 2 2 32 1613 2 2 32 1614",
  "1 2 1600 1614 1 2 32 1615 1 2 1600 1615 1 2 32 1616 1 2 1600 1616 1 2 32 1617 1 2 1600 1617",
  "1 2 32 1618 1 2 1600 1618 118 2 1604 1570 1 2 1604 1570 1 2 1604 1571 1 2 1604 1571",
  "1 2 1604 1573 1 2 1604 1573 1 2 1604 1575 1 2 1604 1575 231 2 32 772 53627 2 119127 119141",
  "1 2 119128 119141 1 3 119128 119141 119150 1 3 119128 119141 119151 1 3 119128 119141 119152",
  "1 3 119128 119141 119153 1 3 119128 119141 119154 87 2 119225 119141 1 2 119226 119141",
  "1 3 119225 119141 119150 1 3 119226 119141 119150 1 3 119225 119141 119151",
  "1 3 119226 119141 119151 8001 2 48 44 1 2 49 44 1 2 50 44 1 2 51 44 1 2 52 44 1 2 53 44",
  "1 2 54 44 1 2 55 44 1 2 56 44 1 2 57 44 6 3 40 97 41 1 3 40 98 41 1 3 40 99 41 1 3 40 100 41",
  "1 3 40 101 41 1 3 40 102 41 1 3 40 103 41 1 3 40 104 41 1 3 40 105 41 1 3 40 106 41",
  "1 3 40 107 41 1 3 40 108 41 1 3 40 109 41 1 3 40 110 41 1 3 40 111 41 1 3 40 112 41",
  "1 3 40 113 41 1 3 40 114 41 1 3 40 115 41 1 3 40 116 41 1 3 40 117 41 1 3 40 118 41",
  "1 3 40 119 41 1 3 40 120 41 1 3 40 121 41 1 3 40 122 41 1 3 12308 115 12309 3 2 99 100",
  "1 2 119 122 28 2 104 118 1 2 109 118 1 2 115 100 1 2 115 115 1 3 112 112 118 1 2 119 99",
  "27 2 109 99 1 2 109 100 1 2 109 114 36 2 100 106 112 2 12411 12363 1 2 12467 12467",
  "63 3 12308 26412 12309 1 3 12308 19977 12309 1 3 12308 20108 12309 1 3 12308 23433 12309",
  "1 3 12308 28857 12309 1 3 12308 25171 12309 1 3 12308 30423 12309 1 3 12308 21213 12309",
  "1 3 12308 25943 12309"]

/-- The characters that are dropped. -/
def ignoredTable : RangeTable := .ofText [
  "173 0 674 0 5308 2 2 0 2044 0 85 0 4 0 56732 15 240 0 48545 3 803933 239"]

/-- The characters from U+0080 on that may stay; those that are replaced or dropped may be
among them. -/
def validTable : RangeTable := .ofText [
  "161 726 4 2 19 0 28 387 42 49 3 2 2 54 9 26 5 5 18 21 2 191 2 47 3 58 3 100 15 58 3 48 3 14",
  "2 27 3 0 2 10 6 30 10 73 2 160 2 7 3 1 3 21 2 6 2 0 4 3 3 8 3 1 3 3 9 0 9 3 3 24 3 2 2 5 5 1",
  "3 21 2 6 2 0 3 0 3 1 3 0 2 4 5 1 3 2 4 0 11 0 10 16 11 2 2 8 2 2 2 21 2 6 2 1 2 4 3 9 2 2",
  "2 2 3 0 16 3 3 11 8 6 2 2 2 7 3 1 3 21 2 6 2 1 2 4 3 8 3 1 3 2 8 2 8 4 3 17 11 1 2 5 4 2 2 3",
  "4 1 2 0 2 1 4 1 4 2 4 11 5 4 4 2 2 3 3 0 7 0 15 20 6 12 2 2 2 22 2 15 3 8 2 2 2 3 8 1 2 2",
  "3 0 3 3 3 9 8 21 2 2 2 22 2 9 2 4 3 8 2 2 2 3 8 1 7 1 2 3 3 9 2 2 13 12 2 2 2 50 2 2 2 5",
  "5 15 3 25 2 2 2 17 4 23 2 8 2 0 3 6 4 0 5 5 2 0 2 7 7 9 3 2 13 57 5 28 38 1 2 0 2 4 2 23 2 0",
  "2 22 3 4 2 0 2 6 2 9 5 1 33 71 2 35 5 38 2 35 2 14 2 12 38 159 49 142 3 231 2 3 3 6 2 0 2 3",
  "3 40 2 3 3 32 2 3 3 6 2 0 2 3 3 14 2 56 2 3 3 66 3 31 4 25 7 85 11 639 2 27 4 88 8 21 10 23",
  "10 19 13 12 2 2 2 1 13 51 3 39 3 9 7 9 7 5 2 3 6 9 7 88 8 42 6 69 11 30 2 11 5 11 5 0 4 41",
  "3 4 12 43 5 25 7 10 4 61 3 64 2 28 3 10 7 9 7 13 3 30 50 76 4 46 2 115 9 59 4 14 4 50 65 7",
  "9 42 6 533 11 37 11 7 9 28 52 1 5 0 16 12 4 1 9 7 15 0 22 1 3 19 4 0 9 46 66 32 16 32 20 135",
  "5 662 26 10 161 1672 3 31 2 348 6 44 2 0 6 0 3 55 9 0 15 23 10 6 2 6 2 6 2 6 2 6 2 6 2 6 2 6",
  "2 125 35 25 2 87 271 62 2 85 3 101 7 42 97 83 13 15 73 55 385 28812 4 54 10 347 22 182 9 202",
  "7 0 2 0 2 4 29 54 4 9 7 55 9 69 9 11 7 115 12 29 4 77 2 10 5 32 2 54 10 13 3 9 3 102 25 27",
  "11 5 3 5 3 5 10 6 2 6 2 59 85 45 3 9 7 11171 13 22 5 48 8723 27 245 0 148 16 380 17 128 0",
  "46 2 33 15 22 1 45 0 397 11 2 25 2 18 2 1 2 14 3 13 35 122 6 2 5 44 4 87 2 12 4 0 48 45",
  "131 28 4 48 16 27 5 35 10 29 6 42 6 29 2 36 5 13 83 117 3 9 47 35 5 39 9 51 12 0 40 10 2 14",
  "2 6 2 1 68 310 10 21 11 7 25 0 128 5 3 0 2 43 2 1 4 0 3 22 2 71 9 8 49 18 2 1 6 32 4 26 6 0",
  "65 55 5 19 3 49 2 1 6 7 2 2 2 28 3 2 5 9 8 8 8 63 33 38 5 11 10 53 4 28 3 26 6 25 8 3 13 6",
  "81 72 120 50 8 45 9 9 295 30 2 41 2 2 3 1 76 42 9 41 23 25 39 27 21 22 10 77 5 35 10 61 2 4",
  "14 24 8 9 7 52 2 17 9 38 10 95 2 19 12 17 2 46 63 6 2 0 2 3 2 14 2 10 7 58 6 9 7 3 2 7 3 1",
  "3 21 2 6 2 1 2 4 2 9 3 1 3 2 3 0 7 0 6 6 3 6 4 4 140 91 2 4 31 71 9 9 167 53 3 37 35 68 12 9",
  "7 12 20 57 7 9 55 26 3 14 5 22 186 59 133 50 13 7 3 0 3 7 2 1 2 29 2 1 3 11 10 9 71 7 3 45",
  "3 10 28 71 9 82 14 72 8 9 247 8 2 44 2 13 11 28 4 31 3 21 2 13 74 6 2 1 2 43 4 0 2 1 2 8 9 9",
  "7 5 2 1 2 36 2 1 2 5 8 9 311 24 8 16 2 40 4 27 87 0 16 49 14 922 103 110 2 4 12 195 2637 98",
  "14 1071 17 21 4011 582 8634 568 8 30 2 9 5 80 2 9 7 29 3 5 11 69 11 9 2 6 2 20 6 18 721 58",
  "102 74 5 56 8 16 65 4 12 1 15 6135 9 1237 43 8 8936 3 2 6 2 1 2 290 16 0 30 2 3 0 15 3 9 395",
  "2309 106 6 12 4 8 8 9 3 3 4705 45 3 22 10 115 61 245 11 38 3 73 9 111 22 69 123 19 13 19",
  "13 86 10 24 1160 651 16 4 2 14 1105 30 7 5 214 6 2 16 3 6 2 1 2 4 101 0 113 44 4 13 3 9 5 1",
  "321 30 18 57 6 0 465 41 743 6 2 3 2 1 2 14 2 196 3 15 76 41 5 9 5 1 786 67 77 60 435 1",
  "271 43 5 99 13 14 3 14 2 14 2 36 22 162 57 25 97 5 155 983 5 16 4 12 4 118 5 94 7 11 5 0",
  "16 11 5 55 9 9 7 39 9 29 3 1 79 339 13 13 3 12 4 8 8 45 2 6 9 13 5 8 8 8 8 146 2 54",
  "1078 42719 33 4153 7 221 3 5761 15 7472 16 621 4515 4938 6 4191"]

/-! ## The mapping -/

/-- What stands for a character in a domain name, unless it may not be there at all. Of ASCII
every character may. -/
def mapped? (c : Char) : Option (List Char) :=
  let n := c.toNat
  if n < 0x80 then some [c.toLower]
  else if ignoredTable.contains n then some []
  else
    match shifts.findSome? (·.image? n) with
    | some m => some [Char.ofNat m]
    | none =>
      match expansions.find? (·.1 == n) with
      | some (_, ms) => some (ms.map Char.ofNat)
      | none => if validTable.contains n then some [c] else none

/-- Whether the character stands for itself. -/
def isValid (c : Char) : Bool :=
  mapped? c = some [c]

/-- The characters that stand for those of a name. -/
def mapAll? : List Char → Option (List Char)
  | [] => some []
  | c :: rest => do
    let cs ← mapped? c
    let more ← mapAll? rest
    return cs ++ more

end NetWatch.DomainMapping
