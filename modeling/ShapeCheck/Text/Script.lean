import ShapeCheck.Text.Runs

/-!
# Scripts

The script of a code point is named by four letters.  Some code points are used by
several scripts.
-/

namespace ShapeCheck
namespace Script

/-- The scripts of all code points, from zero on, each with the length of its run; a
hyphen stands for none. -/
def runs : String :=
  "65Zyyy 26Latn 6Zyyy 26Latn 47Zyyy 1Latn 15Zyyy 1Latn 5Zyyy 23Latn 1Zyyy 31Latn 1Zyyy
   449Latn 39Zyyy 5Latn 5Zyyy 2Bopo 20Zyyy 112Zinh 4Grek 1Zyyy 3Grek 2- 4Grek 1Zyyy 1Grek 4-
   1Grek 1Zyyy 1Grek 1Zyyy 3Grek 1- 1Grek 1- 20Grek 1- 63Grek 14Copt 16Grek 133Cyrl 2Zinh
   169Cyrl 1- 38Armn 2- 50Armn 2- 3Armn 1- 55Hebr 8- 27Hebr 4- 6Hebr 11- 5Arab 1Zyyy 6Arab
   1Zyyy 14Arab 1Zyyy 3Arab 1Zyyy 32Arab 1Zyyy 10Arab 11Zinh 26Arab 1Zinh 108Arab 1Zyyy
   34Arab 14Syrc 1- 60Syrc 2- 3Syrc 48Arab 50Thaa 14- 59Nkoo 2- 3Nkoo 46Samr 2- 15Samr 1-
   28Mand 2- 1Mand 1- 11Syrc 5- 34Arab 5- 75Arab 1Zyyy 29Arab 81Deva 4Zinh 15Deva 2Zyyy
   26Deva 4Beng 1- 8Beng 2- 2Beng 2- 22Beng 1- 7Beng 1- 1Beng 3- 4Beng 2- 9Beng 2- 2Beng 2-
   4Beng 8- 1Beng 4- 2Beng 1- 5Beng 2- 25Beng 2- 3Guru 1- 6Guru 4- 2Guru 2- 22Guru 1- 7Guru
   1- 2Guru 1- 2Guru 1- 2Guru 2- 1Guru 1- 5Guru 4- 2Guru 2- 3Guru 3- 1Guru 7- 4Guru 1- 1Guru
   7- 17Guru 10- 3Gujr 1- 9Gujr 1- 3Gujr 1- 22Gujr 1- 7Gujr 1- 2Gujr 1- 5Gujr 2- 10Gujr 1-
   3Gujr 1- 3Gujr 2- 1Gujr 15- 4Gujr 2- 12Gujr 7- 7Gujr 1- 3Orya 1- 8Orya 2- 2Orya 2- 22Orya
   1- 7Orya 1- 2Orya 1- 5Orya 2- 9Orya 2- 2Orya 2- 3Orya 7- 3Orya 4- 2Orya 1- 5Orya 2-
   18Orya 10- 2Taml 1- 6Taml 3- 3Taml 1- 4Taml 3- 2Taml 1- 1Taml 1- 2Taml 3- 2Taml 3- 3Taml
   3- 12Taml 4- 5Taml 3- 3Taml 1- 4Taml 2- 1Taml 6- 1Taml 14- 21Taml 5- 13Telu 1- 3Telu 1-
   23Telu 1- 16Telu 2- 9Telu 1- 3Telu 1- 4Telu 7- 2Telu 1- 3Telu 1- 2Telu 2- 4Telu 2- 10Telu
   7- 9Telu 13Knda 1- 3Knda 1- 23Knda 1- 10Knda 1- 5Knda 2- 9Knda 1- 3Knda 1- 4Knda 7- 2Knda
   5- 3Knda 1- 4Knda 2- 10Knda 1- 3Knda 12- 13Mlym 1- 3Mlym 1- 51Mlym 1- 3Mlym 1- 6Mlym 4-
   16Mlym 2- 26Mlym 1- 3Sinh 1- 18Sinh 3- 24Sinh 1- 9Sinh 1- 1Sinh 2- 7Sinh 3- 1Sinh 4-
   6Sinh 1- 1Sinh 1- 8Sinh 6- 10Sinh 2- 3Sinh 12- 58Thai 4- 1Zyyy 28Thai 37- 2Laoo 1- 1Laoo
   1- 5Laoo 1- 24Laoo 1- 1Laoo 1- 23Laoo 2- 5Laoo 1- 1Laoo 1- 7Laoo 1- 10Laoo 2- 4Laoo 32-
   72Tibt 1- 36Tibt 4- 39Tibt 1- 36Tibt 1- 15Tibt 1- 7Tibt 4Zyyy 2Tibt 37- 160Mymr 38Geor 1-
   1Geor 5- 1Geor 2- 43Geor 1Zyyy 4Geor 256Hang 73Ethi 1- 4Ethi 2- 7Ethi 1- 1Ethi 1- 4Ethi
   2- 41Ethi 1- 4Ethi 2- 33Ethi 1- 4Ethi 2- 7Ethi 1- 1Ethi 1- 4Ethi 2- 15Ethi 1- 57Ethi 1-
   4Ethi 2- 67Ethi 2- 32Ethi 3- 26Ethi 6- 86Cher 2- 6Cher 2- 640Cans 29Ogam 3- 75Runr 3Zyyy
   11Runr 7- 22Tglg 9- 1Tglg 21Hano 2Zyyy 9- 20Buhd 12- 13Tagb 1- 3Tagb 1- 2Tagb 12- 94Khmr
   2- 10Khmr 6- 10Khmr 6- 2Mong 2Zyyy 1Mong 1Zyyy 20Mong 6- 89Mong 7- 43Mong 5- 70Cans 10-
   31Limb 1- 12Limb 4- 12Limb 4- 1Limb 3- 12Limb 30Tale 2- 5Tale 11- 44Talu 4- 26Talu 6-
   11Talu 3- 2Talu 32Khmr 28Bugi 2- 2Bugi 63Lana 1- 29Lana 2- 11Lana 6- 10Lana 6- 14Lana 2-
   46Zinh 2- 12Zinh 20- 77Bali 1- 50Bali 64Sund 52Batk 8- 4Batk 56Lepc 3- 15Lepc 3- 3Lepc
   48Olck 11Cyrl 5- 43Geor 2- 3Geor 8Sund 8- 3Zinh 1Zyyy 13Zinh 1Zyyy 7Zinh 4Zyyy 1Zinh
   6Zyyy 1Zinh 3Zyyy 2Zinh 1Zyyy 5- 38Latn 5Grek 1Cyrl 49Latn 5Grek 4Latn 5Grek 13Latn 1Cyrl
   70Latn 1Grek 64Zinh 256Latn 22Grek 2- 6Grek 2- 38Grek 2- 6Grek 2- 8Grek 1- 1Grek 1- 1Grek
   1- 1Grek 1- 31Grek 2- 53Grek 1- 15Grek 1- 14Grek 2- 6Grek 1- 19Grek 2- 3Grek 1- 9Grek 1-
   12Zyyy 2Zinh 87Zyyy 1- 11Zyyy 1Latn 2- 11Zyyy 1Latn 15Zyyy 1- 13Latn 3- 34Zyyy 14- 33Zinh
   15- 38Zyyy 1Grek 3Zyyy 2Latn 6Zyyy 1Latn 27Zyyy 1Latn 17Zyyy 41Latn 3Zyyy 4- 666Zyyy 22-
   11Zyyy 21- 928Zyyy 256Brai 628Zyyy 2- 138Zyyy 96Glag 32Latn 116Copt 5- 7Copt 38Geor 1-
   1Geor 5- 1Geor 2- 56Tfng 7- 2Tfng 14- 1Tfng 23Ethi 9- 7Ethi 1- 7Ethi 1- 7Ethi 1- 7Ethi 1-
   7Ethi 1- 7Ethi 1- 7Ethi 1- 7Ethi 1- 32Cyrl 94Zyyy 34- 26Hani 1- 89Hani 12- 214Hani 26-
   21Zyyy 1Hani 1Zyyy 1Hani 25Zyyy 9Hani 4Zinh 2Hang 8Zyyy 4Hani 4Zyyy 1- 86Hira 2- 2Zinh
   2Zyyy 3Hira 1Zyyy 90Kana 2Zyyy 3Kana 5- 43Bopo 1- 94Hang 1- 16Zyyy 32Bopo 38Zyyy 9- 1Zyyy
   16Kana 31Hang 1- 64Zyyy 31Hang 81Zyyy 47Kana 1Zyyy 88Kana 168Zyyy 6592Hani 64Zyyy
   20992Hani 1165Yiii 3- 55Yiii 9- 48Lisu 300Vaii 20- 96Cyrl 88Bamu 8- 34Zyyy 102Latn 3Zyyy
   82Latn 20- 15Latn 45Sylo 3- 10Zyyy 6- 56Phag 8- 70Saur 8- 12Saur 6- 32Deva 46Kali 1Zyyy
   1Kali 36Rjng 11- 1Rjng 29Hang 3- 78Java 1- 1Zyyy 10Java 4- 2Java 31Mymr 1- 55Cham 9-
   14Cham 2- 10Cham 2- 4Cham 32Mymr 67Tavt 24- 5Tavt 23Mtei 10- 6Ethi 2- 6Ethi 2- 6Ethi 9-
   7Ethi 1- 7Ethi 1- 43Latn 1Zyyy 9Latn 1Grek 4Latn 2Zyyy 4- 80Cher 46Mtei 2- 10Mtei 6-
   11172Hang 12- 23Hang 4- 49Hang 8452- 366Hani 2- 106Hani 38- 7Latn 12- 5Armn 5- 26Hebr 1-
   5Hebr 1- 1Hebr 1- 2Hebr 1- 2Hebr 1- 10Hebr 494Arab 2Zyyy 144Arab 32- 16Arab 16Zinh 10Zyyy
   6- 14Zinh 2Cyrl 35Zyyy 1- 19Zyyy 1- 4Zyyy 4- 5Arab 1- 135Arab 2- 1Zyyy 1- 32Zyyy 26Latn
   6Zyyy 26Latn 11Zyyy 10Kana 1Zyyy 45Kana 2Zyyy 31Hang 3- 6Hang 2- 6Hang 2- 6Hang 2- 3Hang
   3- 7Zyyy 1- 7Zyyy 10- 5Zyyy 2- 12Linb 1- 26Linb 1- 19Linb 1- 2Linb 1- 15Linb 2- 14Linb
   34- 123Linb 5- 3Zyyy 4- 45Zyyy 3- 9Zyyy 79Grek 1- 13Zyyy 3- 1Grek 47- 45Zyyy 1Zinh 130-
   29Lyci 3- 49Cari 15- 1Zinh 27Zyyy 4- 36Ital 9- 3Ital 27Goth 5- 43Perm 5- 30Ugar 1- 1Ugar
   36Xpeo 4- 14Xpeo 42- 80Dsrt 48Shaw 30Osma 2- 10Osma 6- 36Osge 4- 36Osge 4- 40Elba 8-
   52Aghb 11- 1Aghb 11Vith 1- 15Vith 1- 7Vith 1- 2Vith 1- 11Vith 1- 15Vith 1- 7Vith 1- 2Vith
   3- 52Todr 12- 311Lina 9- 22Lina 10- 8Lina 24- 6Latn 1- 42Latn 1- 9Latn 69- 6Cprt 2- 1Cprt
   1- 44Cprt 1- 2Cprt 3- 1Cprt 2- 1Cprt 22Armi 1- 9Armi 32Palm 31Nbat 8- 9Nbat 48- 19Hatr 1-
   2Hatr 5- 5Hatr 28Phnx 3- 1Phnx 26Lydi 5- 1Lydi 26Sidt 38- 32Mero 24Merc 4- 20Merc 2-
   46Merc 4Khar 1- 2Khar 5- 8Khar 1- 3Khar 1- 29Khar 2- 3Khar 4- 10Khar 7- 9Khar 7- 32Sarb
   32Narb 32- 39Mani 4- 12Mani 9- 54Avst 3- 7Avst 22Prti 2- 8Prti 19Phli 5- 8Phli 18Phlp 7-
   4Phlp 12- 7Phlp 80- 73Orkh 55- 51Hung 13- 51Hung 7- 6Hung 40Rohg 8- 10Rohg 6- 38Gara 3-
   29Gara 8- 2Gara 208- 31Arab 1- 42Yezi 1- 3Yezi 2- 2Yezi 16- 6Arab 8- 9Arab 33- 6Arab
   40Sogo 8- 42Sogd 22- 26Ougr 38- 28Chrs 20- 23Elym 9- 78Brah 4- 36Brah 9- 1Brah 67Kthi 10-
   1Kthi 2- 25Sora 7- 10Sora 6- 53Cakm 1- 18Cakm 8- 39Mahj 9- 96Shrd 1- 20Sinh 11- 18Khoj 1-
   47Khoj 62- 7Mult 1- 1Mult 1- 4Mult 1- 15Mult 1- 11Mult 6- 59Sind 5- 10Sind 6- 4Gran 1-
   8Gran 2- 2Gran 2- 22Gran 1- 7Gran 1- 2Gran 1- 5Gran 1- 1Zinh 9Gran 2- 2Gran 2- 3Gran 2-
   1Gran 6- 1Gran 5- 7Gran 2- 7Gran 3- 5Gran 11- 10Tutg 1- 1Tutg 2- 1Tutg 1- 38Tutg 1-
   10Tutg 1- 1Tutg 2- 1Tutg 1- 4Tutg 1- 10Tutg 1- 2Tutg 8- 2Tutg 29- 92Newa 1- 5Newa 30-
   72Tirh 8- 10Tirh 166- 54Sidd 2- 38Sidd 34- 69Modi 11- 10Modi 6- 13Mong 19- 58Takr 6-
   10Takr 6- 20Mymr 28- 27Ahom 2- 15Ahom 4- 23Ahom 185- 60Dogr 100- 83Wara 12- 1Wara 7Diak
   2- 1Diak 2- 8Diak 1- 2Diak 1- 30Diak 1- 2Diak 2- 12Diak 9- 10Diak 70- 8Nand 2- 46Nand 2-
   11Nand 27- 72Zanb 8- 83Soyo 13- 16Cans 57Pauc 7- 10Deva 86- 8Shrd 88- 34Sunu 14- 10Sunu
   6- 9Bhks 1- 45Bhks 1- 14Bhks 10- 29Bhks 3- 32Marc 2- 22Marc 1- 14Marc 73- 7Gonm 1- 2Gonm
   1- 44Gonm 3- 1Gonm 1- 2Gonm 1- 9Gonm 8- 10Gonm 6- 6Gong 1- 2Gong 1- 37Gong 1- 2Gong 1-
   6Gong 7- 10Gong 6- 44Tols 4- 10Tols 246- 25Maka 7- 17Kawi 1- 41Kawi 3- 29Kawi 85- 1Lisu
   15- 50Taml 13- 1Taml 922Xsux 102- 111Xsux 1- 5Xsux 11- 196Xsux 2636- 99Cpmn 13- 1110Egyp
   10- 3995Egyp 5- 583Hluw 6841- 58Gukh 1734- 569Bamu 7- 31Mroo 1- 10Mroo 4- 2Mroo 79Tnsa 1-
   10Tnsa 6- 30Bass 2- 6Bass 10- 70Hmng 10- 10Hmng 1- 7Hmng 1- 21Hmng 5- 19Hmng 432- 58Krai
   198- 91Medf 5- 25Berf 2- 25Berf 44- 75Plrd 4- 57Plrd 7- 17Plrd 64- 1Tang 1Nshu 2Hani
   1Kits 11- 7Hani 9- 6912Tang 470Kits 41- 1Kits 31Tang 97- 115Tang 8701- 4Kana 1- 7Kana 1-
   2Kana 1- 1Kana 287Hira 3Kana 15- 1Hira 29- 3Hira 2- 1Kana 14- 4Kana 8- 396Nshu 2308-
   107Dupl 5- 13Dupl 3- 9Dupl 7- 10Dupl 2- 4Dupl 4Zyyy 3932- 253Zyyy 3- 436Zyyy 6- 23Zyyy
   15- 17Zyyy 15- 46Zinh 2- 23Zinh 9- 116Zyyy 60- 246Zyyy 10- 39Zyyy 2- 62Zyyy 3Zinh 17Zyyy
   8Zinh 2Zyyy 7Zinh 30Zyyy 4Zinh 61Zyyy 21- 70Grek 122- 20Zyyy 12- 20Zyyy 12- 87Zyyy 9-
   25Zyyy 135- 85Zyyy 1- 71Zyyy 1- 2Zyyy 2- 1Zyyy 2- 2Zyyy 2- 4Zyyy 1- 12Zyyy 1- 1Zyyy 1-
   7Zyyy 1- 65Zyyy 1- 4Zyyy 2- 8Zyyy 1- 7Zyyy 1- 28Zyyy 1- 4Zyyy 1- 5Zyyy 1- 1Zyyy 3- 7Zyyy
   1- 340Zyyy 2- 292Zyyy 2- 50Zyyy 652Sgnw 15- 5Sgnw 1- 15Sgnw 1104- 31Latn 6- 6Latn 213-
   7Glag 1- 17Glag 2- 7Glag 1- 2Glag 1- 5Glag 5- 62Cyrl 33- 1Cyrl 112- 45Hmnp 3- 14Hmnp 2-
   10Hmnp 4- 2Hmnp 320- 31Toto 17- 58Wcho 5- 1Wcho 464- 42Nagm 214- 43Onao 4- 1Onao 192-
   31Tayo 1- 22Tayo 8- 2Tayo 224- 7Ethi 1- 4Ethi 1- 2Ethi 1- 15Ethi 1- 197Mend 2- 16Mend 41-
   76Adlm 4- 10Adlm 4- 2Adlm 785- 68Zyyy 76- 61Zyyy 194- 4Arab 1- 27Arab 1- 2Arab 1- 1Arab
   2- 1Arab 1- 10Arab 1- 4Arab 1- 1Arab 1- 1Arab 6- 1Arab 4- 1Arab 1- 1Arab 1- 1Arab 1-
   3Arab 1- 2Arab 1- 1Arab 2- 1Arab 1- 1Arab 1- 1Arab 1- 1Arab 1- 1Arab 1- 2Arab 1- 1Arab 2-
   4Arab 1- 7Arab 1- 4Arab 1- 4Arab 1- 1Arab 1- 10Arab 1- 17Arab 5- 3Arab 1- 5Arab 1- 17Arab
   52- 2Arab 270- 44Zyyy 4- 100Zyyy 12- 15Zyyy 2- 15Zyyy 1- 15Zyyy 1- 37Zyyy 10- 174Zyyy 56-
   26Zyyy 1Hira 2Zyyy 13- 44Zyyy 4- 9Zyyy 7- 2Zyyy 14- 6Zyyy 154- 985Zyyy 3- 17Zyyy 3-
   13Zyyy 3- 218Zyyy 6- 12Zyyy 4- 1Zyyy 15- 12Zyyy 4- 56Zyyy 8- 10Zyyy 6- 40Zyyy 8- 30Zyyy
   2- 12Zyyy 4- 2Zyyy 14- 9Zyyy 39- 344Zyyy 8- 14Zyyy 2- 13Zyyy 3- 11Zyyy 3- 57Zyyy 1- 1Zyyy
   4- 16Zyyy 2- 12Zyyy 4- 10Zyyy 7- 147Zyyy 1- 103Zyyy 1029- 42720Hani 32- 4382Hani 2-
   5774Hani 2- 7473Hani 15- 622Hani 2466- 542Hani 1506- 4939Hani 5- 8490Hani 707463- 1Zyyy
   30- 96Zyyy 128- 240Zinh 196112-"

/-- The scripts that use a code point, where this is not just its own script. -/
def extensionRuns : String :=
  "183- 1Avst/Cari/Copt/Dupl/Elba/Geor/Glag/Gong/Goth/Grek/Hani/Latn/Lydi/Mahj/Perm/Shaw
   516- 1Beng/Cyrl/Deva/Latn/Lisu/Thai/Toto 10- 1Bopo/Latn 1- 3Bopo/Latn 1- 1Latn/Lisu 9-
   1Latn/Thai 1- 1Bopo/Latn 38- 1Cher/Copt/Cyrl/Grek/Latn/Perm/Tale/Sunu
   1Cher/Cyrl/Grek/Latn/Osge/Tale/Sunu/Todr 1Cher/Cyrl/Latn/Tfng 1Glag/Latn/Syrc/Thai/Sunu
   1Aghb/Cher/Copt/Cyrl/Goth/Grek/Latn/Osge/Syrc/Tfng/Todr 1Copt/Elba/Glag/Goth/Kana/Latn
   1Cyrl/Grek/Latn/Perm/Tfng 1Copt/Dupl/Hebr/Latn/Perm/Syrc/Tale/Tfng/Todr
   1Armn/Cyrl/Dupl/Goth/Grek/Hebr/Latn/Perm/Syrc/Tale/Tfng 1Latn/Tfng 1Dupl/Latn/Syrc
   1Cher/Cyrl/Latn/Osge 1Cher/Latn/Tale 1Latn/Sunu 1Ethi/Latn 1- 1Latn/Sunu 1Cyrl/Latn/Todr
   1- 1Grek/Latn/Perm/Todr 15- 1Cher/Dupl/Kana/Latn/Syrc/Tfng 1Cher/Dupl/Latn/Syrc
   1Latn/Syrc 7- 1Latn/Syrc/Sunu 1Latn/Syrc 1- 1Cher/Latn/Syrc
   1Aghb/Cher/Goth/Latn/Syrc/Thai/Sunu 16- 1Grek 2- 1Grek 18- 1Latn/Osge 5- 1Aghb/Latn/Todr
   4- 13Latn 4- 2Copt/Grek 269- 1Cyrl/Perm 1Cyrl/Glag 2Cyrl/Latn 1Cyrl/Glag 257-
   1Armn/Geor/Glag 130- 1Arab/Nkoo/Rohg/Syrc/Thaa/Yezi/Gara 14-
   1Arab/Nkoo/Rohg/Syrc/Thaa/Yezi/Gara 1Arab/Syrc/Thaa 2-
   1Adlm/Arab/Nkoo/Rohg/Syrc/Thaa/Yezi/Gara 32-
   1Adlm/Arab/Mand/Mani/Ougr/Phlp/Rohg/Sogd/Syrc 10- 11Arab/Syrc 10- 10Arab/Thaa/Yezi 6-
   1Arab/Syrc 99- 1Arab/Rohg 636-
   1Beng/Deva/Gran/Gujr/Guru/Knda/Latn/Mlym/Nand/Newa/Orya/Shrd/Taml/Telu/Tirh
   1Beng/Deva/Gran/Gujr/Guru/Knda/Latn/Mlym/Newa/Orya/Taml/Telu/Tirh 17-
   1Beng/Deva/Dogr/Gong/Gonm/Gran/Gujr/Guru/Knda/Mahj/Mlym/Nand/Orya/Sind/Sinh/Sylo/Takr/Taml/Telu/Tirh/Onao
   1Beng/Deva/Dogr/Gong/Gonm/Gran/Gujr/Guru/Knda/Limb/Mahj/Mlym/Nand/Orya/Sind/Sinh/Sylo/Takr/Taml/Telu/Tirh/Gukh/Onao
   10Deva/Dogr/Kthi/Mahj 118- 10Beng/Cakm/Sylo 118- 10Guru/Mult 118- 10Gujr/Khoj 246-
   14Gran/Taml 242- 10Knda/Nand/Tutg 848- 10Cakm/Mymr/Tale 177- 1Geor/Glag/Latn 1519- 3Runr
   71- 2Buhd/Hano/Tagb/Tglg 203- 2Mong/Phag 1- 1Mong/Phag 1226- 1Beng/Deva/Gran/Knda 1Deva
   1Beng/Deva/Gran/Knda 1Deva/Gran/Knda 1Deva 1Beng/Deva/Newa/Telu/Tirh 1Beng/Deva/Telu
   1Deva/Newa/Shrd 1Beng/Deva/Newa/Telu 1Deva/Shrd 1Deva/Knda/Mlym/Orya/Taml/Telu 1Deva
   2Deva/Shrd 2Deva 1Deva/Shrd 1Beng/Deva 1Deva/Newa/Tirh 6Deva 1Deva/Nand/Newa
   1Beng/Deva/Shrd 1Deva/Newa 1Deva 1Beng/Deva/Newa/Shrd 4Deva
   1Beng/Deva/Gran/Knda/Mlym/Nand/Orya/Sinh/Telu/Tirh/Tutg 1Deva/Gran 1Deva/Gran/Knda/Tutg
   2Beng/Deva 1Beng 2Deva/Gran 1Nand 197- 2Grek 54- 1Cyrl/Latn/Syrc 1- 1Syrc 564-
   1Latn/Mong/Phag 31- 1Adlm/Arab 10- 1Cari/Geor/Glag/Hung/Lyci/Orkh 2- 1Cari/Grek/Hung/Mero
   146- 1Deva/Gran/Latn 3366- 1Copt/Latn 24- 1Avst/Orkh 1Avst/Cari/Geor/Hung/Kthi/Lydi/Samr
   10- 1Dupl 4- 1Adlm/Arab/Hung 1- 1Cyrl/Glag 428- 16Hani/Tang 1-
   1Bopo/Hang/Hani/Hira/Kana/Mong/Yiii 1Bopo/Hang/Hani/Hira/Kana/Mong/Phag/Yiii
   1Bopo/Hang/Hani/Hira/Kana 2- 1Hani 1- 2Bopo/Hang/Hani/Hira/Kana/Mong/Tibt/Yiii
   2Bopo/Hang/Hani/Hira/Kana/Lisu/Mong/Tibt/Yiii 6Bopo/Hang/Hani/Hira/Kana/Yiii 1-
   1Bopo/Hang/Hani/Hira/Kana 8Bopo/Hang/Hani/Hira/Kana/Yiii 4Bopo/Hang/Hani/Hira/Kana 10-
   4Bopo/Hani 2- 1Bopo/Hang/Hani/Hira/Kana 5Hira/Kana 1- 1Bopo/Hang/Hani/Hira/Kana 4-
   2Hani/Hira/Kana 2Hani 89- 4Hira/Kana 3- 1Hira/Kana 90- 1Bopo/Hang/Hani/Hira/Kana/Yiii
   1Hira/Kana 147- 16Hani 32- 38Hani 9- 1Hani/Tang 48- 40Hani 56- 49Hani 15- 12Hani 51-
   1Hani 88- 25Hani 10- 5Hani 96- 31Hani 29296- 1Cyrl/Glag 144- 8Hani/Latn 296-
   3Deva/Dogr/Gujr/Guru/Khoj/Knda/Kthi/Mahj/Mlym/Modi/Nand/Shrd/Sind/Takr/Tirh/Tutg
   3Deva/Dogr/Gujr/Guru/Khoj/Knda/Kthi/Mahj/Modi/Nand/Shrd/Sind/Takr/Tirh/Tutg
   2Deva/Dogr/Gujr/Guru/Khoj/Kthi/Mahj/Modi/Sind/Takr/Tirh
   1Deva/Dogr/Gujr/Guru/Khoj/Kthi/Mahj/Modi/Shrd/Sind/Takr/Tirh
   1Deva/Dogr/Gujr/Guru/Khoj/Kthi/Mahj/Modi/Sind/Takr/Tirh 183- 1Beng/Deva/Tutg 1-
   1Deva/Taml 58- 1Kali/Latn/Mymr 160- 1Bugi/Java 21358- 2Arab/Nkoo 178- 1Arab/Thaa 10-
   1Arab/Thaa 71- 2Bopo/Hang/Hani/Hira/Kana 282- 5Bopo/Hang/Hani/Hira/Kana/Yiii 10-
   1Hira/Kana 45- 2Hira/Kana 352- 2Cpmn/Cprt/Linb 1Cprt/Linb 4- 45Cprt/Lina/Linb 3-
   9Cprt/Linb 416- 28Arab/Copt 2038- 1Mani/Ougr 2062- 1Gran/Taml 1- 1Gran/Taml 55-
   2Gran/Taml 3219- 2Gran/Taml 1- 1Gran/Taml 40140- 4Dupl 5820- 18Hani 7902- 2Hani 986542-"

def table : List (Nat × Nat × String) := Runs.labelled runs

def extensionTable : List (Nat × Nat × String) := Runs.labelled extensionRuns

def ranges (code : String) : List (Nat × Nat) :=
  (table.filter (fun r => r.2.2 == code)).map (fun r => (r.1, r.2.1))

/-- The code points that are used by several scripts or by another than their own. -/
def sharedRanges : List (Nat × Nat) :=
  (extensionTable.filter (fun r => r.2.2 != "-")).map (fun r => (r.1, r.2.1))

def usedRanges (code : String) : List (Nat × Nat) :=
  (extensionTable.filter (fun r => (r.2.2.splitOn "/").contains code)).map
    (fun r => (r.1, r.2.1))

def byName : List (String × String) :=
  [
    ("adlm", "Adlm"), ("adlam", "Adlm"), ("aghb", "Aghb"), ("caucasianalbanian", "Aghb"),
    ("ahom", "Ahom"), ("arab", "Arab"), ("arabic", "Arab"), ("armi", "Armi"),
    ("imperialaramaic", "Armi"), ("armn", "Armn"), ("armenian", "Armn"), ("avst", "Avst"),
    ("avestan", "Avst"), ("bali", "Bali"), ("balinese", "Bali"), ("bamu", "Bamu"),
    ("bamum", "Bamu"), ("bass", "Bass"), ("bassavah", "Bass"), ("batk", "Batk"),
    ("batak", "Batk"), ("beng", "Beng"), ("bengali", "Beng"), ("bhks", "Bhks"),
    ("bhaiksuki", "Bhks"), ("bopo", "Bopo"), ("bopomofo", "Bopo"), ("brah", "Brah"),
    ("brahmi", "Brah"), ("brai", "Brai"), ("braille", "Brai"), ("bugi", "Bugi"),
    ("buginese", "Bugi"), ("buhd", "Buhd"), ("buhid", "Buhd"), ("cakm", "Cakm"),
    ("chakma", "Cakm"), ("cans", "Cans"), ("canadianaboriginal", "Cans"), ("cari", "Cari"),
    ("carian", "Cari"), ("cham", "Cham"), ("cher", "Cher"), ("cherokee", "Cher"),
    ("chrs", "Chrs"), ("chorasmian", "Chrs"), ("copt", "Copt"), ("coptic", "Copt"),
    ("qaac", "Copt"), ("cpmn", "Cpmn"), ("cyprominoan", "Cpmn"), ("cprt", "Cprt"),
    ("cypriot", "Cprt"), ("cyrl", "Cyrl"), ("cyrillic", "Cyrl"), ("deva", "Deva"),
    ("devanagari", "Deva"), ("diak", "Diak"), ("divesakuru", "Diak"), ("dogr", "Dogr"),
    ("dogra", "Dogr"), ("dsrt", "Dsrt"), ("deseret", "Dsrt"), ("dupl", "Dupl"),
    ("duployan", "Dupl"), ("egyp", "Egyp"), ("egyptianhieroglyphs", "Egyp"), ("elba", "Elba"),
    ("elbasan", "Elba"), ("elym", "Elym"), ("elymaic", "Elym"), ("ethi", "Ethi"),
    ("ethiopic", "Ethi"), ("geor", "Geor"), ("georgian", "Geor"), ("glag", "Glag"),
    ("glagolitic", "Glag"), ("gong", "Gong"), ("gunjalagondi", "Gong"), ("gonm", "Gonm"),
    ("masaramgondi", "Gonm"), ("goth", "Goth"), ("gothic", "Goth"), ("gran", "Gran"),
    ("grantha", "Gran"), ("grek", "Grek"), ("greek", "Grek"), ("gujr", "Gujr"),
    ("gujarati", "Gujr"), ("guru", "Guru"), ("gurmukhi", "Guru"), ("hang", "Hang"),
    ("hangul", "Hang"), ("hani", "Hani"), ("han", "Hani"), ("hano", "Hano"),
    ("hanunoo", "Hano"), ("hatr", "Hatr"), ("hatran", "Hatr"), ("hebr", "Hebr"),
    ("hebrew", "Hebr"), ("hira", "Hira"), ("hiragana", "Hira"), ("hluw", "Hluw"),
    ("anatolianhieroglyphs", "Hluw"), ("hmng", "Hmng"), ("pahawhhmong", "Hmng"),
    ("hmnp", "Hmnp"), ("nyiakengpuachuehmong", "Hmnp"), ("hung", "Hung"),
    ("oldhungarian", "Hung"), ("ital", "Ital"), ("olditalic", "Ital"), ("java", "Java"),
    ("javanese", "Java"), ("kali", "Kali"), ("kayahli", "Kali"), ("kana", "Kana"),
    ("katakana", "Kana"), ("kawi", "Kawi"), ("khar", "Khar"), ("kharoshthi", "Khar"),
    ("khmr", "Khmr"), ("khmer", "Khmr"), ("khoj", "Khoj"), ("khojki", "Khoj"),
    ("kits", "Kits"), ("khitansmallscript", "Kits"), ("knda", "Knda"), ("kannada", "Knda"),
    ("kthi", "Kthi"), ("kaithi", "Kthi"), ("lana", "Lana"), ("taitham", "Lana"),
    ("laoo", "Laoo"), ("lao", "Laoo"), ("latn", "Latn"), ("latin", "Latn"), ("lepc", "Lepc"),
    ("lepcha", "Lepc"), ("limb", "Limb"), ("limbu", "Limb"), ("lina", "Lina"),
    ("lineara", "Lina"), ("linb", "Linb"), ("linearb", "Linb"), ("lisu", "Lisu"),
    ("lyci", "Lyci"), ("lycian", "Lyci"), ("lydi", "Lydi"), ("lydian", "Lydi"),
    ("mahj", "Mahj"), ("mahajani", "Mahj"), ("maka", "Maka"), ("makasar", "Maka"),
    ("mand", "Mand"), ("mandaic", "Mand"), ("mani", "Mani"), ("manichaean", "Mani"),
    ("marc", "Marc"), ("marchen", "Marc"), ("medf", "Medf"), ("medefaidrin", "Medf"),
    ("mend", "Mend"), ("mendekikakui", "Mend"), ("merc", "Merc"), ("meroiticcursive", "Merc"),
    ("mero", "Mero"), ("meroitichieroglyphs", "Mero"), ("mlym", "Mlym"), ("malayalam", "Mlym"),
    ("modi", "Modi"), ("mong", "Mong"), ("mongolian", "Mong"), ("mroo", "Mroo"),
    ("mro", "Mroo"), ("mtei", "Mtei"), ("meeteimayek", "Mtei"), ("mult", "Mult"),
    ("multani", "Mult"), ("mymr", "Mymr"), ("myanmar", "Mymr"), ("nagm", "Nagm"),
    ("nagmundari", "Nagm"), ("nand", "Nand"), ("nandinagari", "Nand"), ("narb", "Narb"),
    ("oldnortharabian", "Narb"), ("nbat", "Nbat"), ("nabataean", "Nbat"), ("newa", "Newa"),
    ("nkoo", "Nkoo"), ("nko", "Nkoo"), ("nshu", "Nshu"), ("nushu", "Nshu"), ("ogam", "Ogam"),
    ("ogham", "Ogam"), ("olck", "Olck"), ("olchiki", "Olck"), ("orkh", "Orkh"),
    ("oldturkic", "Orkh"), ("orya", "Orya"), ("oriya", "Orya"), ("osge", "Osge"),
    ("osage", "Osge"), ("osma", "Osma"), ("osmanya", "Osma"), ("ougr", "Ougr"),
    ("olduyghur", "Ougr"), ("palm", "Palm"), ("palmyrene", "Palm"), ("pauc", "Pauc"),
    ("paucinhau", "Pauc"), ("perm", "Perm"), ("oldpermic", "Perm"), ("phag", "Phag"),
    ("phagspa", "Phag"), ("phli", "Phli"), ("inscriptionalpahlavi", "Phli"), ("phlp", "Phlp"),
    ("psalterpahlavi", "Phlp"), ("phnx", "Phnx"), ("phoenician", "Phnx"), ("plrd", "Plrd"),
    ("miao", "Plrd"), ("prti", "Prti"), ("inscriptionalparthian", "Prti"), ("rjng", "Rjng"),
    ("rejang", "Rjng"), ("rohg", "Rohg"), ("hanifirohingya", "Rohg"), ("runr", "Runr"),
    ("runic", "Runr"), ("samr", "Samr"), ("samaritan", "Samr"), ("sarb", "Sarb"),
    ("oldsoutharabian", "Sarb"), ("saur", "Saur"), ("saurashtra", "Saur"), ("sgnw", "Sgnw"),
    ("signwriting", "Sgnw"), ("shaw", "Shaw"), ("shavian", "Shaw"), ("shrd", "Shrd"),
    ("sharada", "Shrd"), ("sidd", "Sidd"), ("siddham", "Sidd"), ("sind", "Sind"),
    ("khudawadi", "Sind"), ("sinh", "Sinh"), ("sinhala", "Sinh"), ("sogd", "Sogd"),
    ("sogdian", "Sogd"), ("sogo", "Sogo"), ("oldsogdian", "Sogo"), ("sora", "Sora"),
    ("sorasompeng", "Sora"), ("soyo", "Soyo"), ("soyombo", "Soyo"), ("sund", "Sund"),
    ("sundanese", "Sund"), ("sylo", "Sylo"), ("sylotinagri", "Sylo"), ("syrc", "Syrc"),
    ("syriac", "Syrc"), ("tagb", "Tagb"), ("tagbanwa", "Tagb"), ("takr", "Takr"),
    ("takri", "Takr"), ("tale", "Tale"), ("taile", "Tale"), ("talu", "Talu"),
    ("newtailue", "Talu"), ("taml", "Taml"), ("tamil", "Taml"), ("tang", "Tang"),
    ("tangut", "Tang"), ("tavt", "Tavt"), ("taiviet", "Tavt"), ("telu", "Telu"),
    ("telugu", "Telu"), ("tfng", "Tfng"), ("tifinagh", "Tfng"), ("tglg", "Tglg"),
    ("tagalog", "Tglg"), ("thaa", "Thaa"), ("thaana", "Thaa"), ("thai", "Thai"),
    ("tibt", "Tibt"), ("tibetan", "Tibt"), ("tirh", "Tirh"), ("tirhuta", "Tirh"),
    ("tnsa", "Tnsa"), ("tangsa", "Tnsa"), ("toto", "Toto"), ("ugar", "Ugar"),
    ("ugaritic", "Ugar"), ("vaii", "Vaii"), ("vai", "Vaii"), ("vith", "Vith"),
    ("vithkuqi", "Vith"), ("wara", "Wara"), ("warangciti", "Wara"), ("wcho", "Wcho"),
    ("wancho", "Wcho"), ("xpeo", "Xpeo"), ("oldpersian", "Xpeo"), ("xsux", "Xsux"),
    ("cuneiform", "Xsux"), ("yezi", "Yezi"), ("yezidi", "Yezi"), ("yiii", "Yiii"),
    ("yi", "Yiii"), ("zanb", "Zanb"), ("zanabazarsquare", "Zanb"), ("zinh", "Zinh"),
    ("inherited", "Zinh"), ("qaai", "Zinh"), ("zyyy", "Zyyy"), ("common", "Zyyy"),
    ("gara", "Gara"), ("garay", "Gara"), ("gukh", "Gukh"), ("gurungkhema", "Gukh"),
    ("krai", "Krai"), ("kiratrai", "Krai"), ("onao", "Onao"), ("olonal", "Onao"),
    ("sunu", "Sunu"), ("sunuwar", "Sunu"), ("todr", "Todr"), ("todhri", "Todr"),
    ("tutg", "Tutg"), ("tulutigalari", "Tutg"), ("sidt", "Sidt"), ("sidetic", "Sidt"),
    ("tols", "Tols"), ("tolongsiki", "Tols"), ("berf", "Berf"), ("beriaerfe", "Berf"),
    ("tayo", "Tayo"), ("taiyo", "Tayo")
  ]

end Script
end ShapeCheck
