import Retrieval.Text.CodeTable

/-!
# The table of lower-case forms

* `lowerForms` : the characters with a lower-case form of their own;
* `cased`, `caseIgnorable` : the two classes that tell where a word ends.
-/

namespace Retrieval.Text

def lowerRowsA : List Nat :=
  [0x800041_000061_800042_000062_800043_000063_800044_000064_800045_000065_800046_000066,
   0x800047_000067_800048_000068_800049_000069_80004A_00006A_80004B_00006B_80004C_00006C,
   0x80004D_00006D_80004E_00006E_80004F_00006F_800050_000070_800051_000071_800052_000072,
   0x800053_000073_800054_000074_800055_000075_800056_000076_800057_000077_800058_000078,
   0x800059_000079_80005A_00007A_8000C0_0000E0_8000C1_0000E1_8000C2_0000E2_8000C3_0000E3,
   0x8000C4_0000E4_8000C5_0000E5_8000C6_0000E6_8000C7_0000E7_8000C8_0000E8_8000C9_0000E9,
   0x8000CA_0000EA_8000CB_0000EB_8000CC_0000EC_8000CD_0000ED_8000CE_0000EE_8000CF_0000EF,
   0x8000D0_0000F0_8000D1_0000F1_8000D2_0000F2_8000D3_0000F3_8000D4_0000F4_8000D5_0000F5,
   0x8000D6_0000F6_8000D8_0000F8_8000D9_0000F9_8000DA_0000FA_8000DB_0000FB_8000DC_0000FC,
   0x8000DD_0000FD_8000DE_0000FE_800100_000101_800102_000103_800104_000105_800106_000107,
   0x800108_000109_80010A_00010B_80010C_00010D_80010E_00010F_800110_000111_800112_000113,
   0x800114_000115_800116_000117_800118_000119_80011A_00011B_80011C_00011D_80011E_00011F,
   0x800120_000121_800122_000123_800124_000125_800126_000127_800128_000129_80012A_00012B,
   0x80012C_00012D_80012E_00012F_800130_000069_000307_800132_000133_800134_000135_800136,
   0x000137_800139_00013A_80013B_00013C_80013D_00013E_80013F_000140_800141_000142_800143,
   0x000144_800145_000146_800147_000148_80014A_00014B_80014C_00014D_80014E_00014F_800150,
   0x000151_800152_000153_800154_000155_800156_000157_800158_000159_80015A_00015B_80015C,
   0x00015D_80015E_00015F_800160_000161_800162_000163_800164_000165_800166_000167_800168,
   0x000169_80016A_00016B_80016C_00016D_80016E_00016F_800170_000171_800172_000173_800174,
   0x000175_800176_000177_800178_0000FF_800179_00017A_80017B_00017C_80017D_00017E_800181,
   0x000253_800182_000183_800184_000185_800186_000254_800187_000188_800189_000256_80018A,
   0x000257_80018B_00018C_80018E_0001DD_80018F_000259_800190_00025B_800191_000192_800193,
   0x000260_800194_000263_800196_000269_800197_000268_800198_000199_80019C_00026F_80019D,
   0x000272_80019F_000275_8001A0_0001A1_8001A2_0001A3_8001A4_0001A5_8001A6_000280_8001A7,
   0x0001A8_8001A9_000283_8001AC_0001AD_8001AE_000288_8001AF_0001B0_8001B1_00028A_8001B2,
   0x00028B_8001B3_0001B4_8001B5_0001B6_8001B7_000292_8001B8_0001B9_8001BC_0001BD_8001C4,
   0x0001C6_8001C5_0001C6_8001C7_0001C9_8001C8_0001C9_8001CA_0001CC_8001CB_0001CC_8001CD,
   0x0001CE_8001CF_0001D0_8001D1_0001D2_8001D3_0001D4_8001D5_0001D6_8001D7_0001D8_8001D9,
   0x0001DA_8001DB_0001DC_8001DE_0001DF_8001E0_0001E1_8001E2_0001E3_8001E4_0001E5_8001E6,
   0x0001E7_8001E8_0001E9_8001EA_0001EB_8001EC_0001ED_8001EE_0001EF_8001F1_0001F3_8001F2,
   0x0001F3_8001F4_0001F5_8001F6_000195_8001F7_0001BF_8001F8_0001F9_8001FA_0001FB_8001FC,
   0x0001FD_8001FE_0001FF_800200_000201_800202_000203_800204_000205_800206_000207_800208,
   0x000209_80020A_00020B_80020C_00020D_80020E_00020F_800210_000211_800212_000213_800214,
   0x000215_800216_000217_800218_000219_80021A_00021B_80021C_00021D_80021E_00021F_800220,
   0x00019E_800222_000223_800224_000225_800226_000227_800228_000229_80022A_00022B_80022C,
   0x00022D_80022E_00022F_800230_000231_800232_000233_80023A_002C65_80023B_00023C_80023D,
   0x00019A_80023E_002C66_800241_000242_800243_000180_800244_000289_800245_00028C_800246,
   0x000247_800248_000249_80024A_00024B_80024C_00024D_80024E_00024F_800370_000371_800372,
   0x000373_800376_000377_80037F_0003F3_800386_0003AC_800388_0003AD_800389_0003AE_80038A,
   0x0003AF_80038C_0003CC_80038E_0003CD_80038F_0003CE_800391_0003B1_800392_0003B2_800393,
   0x0003B3_800394_0003B4_800395_0003B5_800396_0003B6_800397_0003B7_800398_0003B8_800399,
   0x0003B9_80039A_0003BA_80039B_0003BB_80039C_0003BC_80039D_0003BD_80039E_0003BE_80039F,
   0x0003BF_8003A0_0003C0_8003A1_0003C1_8003A3_0003C3_8003A4_0003C4_8003A5_0003C5_8003A6,
   0x0003C6_8003A7_0003C7_8003A8_0003C8_8003A9_0003C9_8003AA_0003CA_8003AB_0003CB_8003CF,
   0x0003D7_8003D8_0003D9_8003DA_0003DB_8003DC_0003DD_8003DE_0003DF_8003E0_0003E1_8003E2,
   0x0003E3_8003E4_0003E5_8003E6_0003E7_8003E8_0003E9_8003EA_0003EB_8003EC_0003ED_8003EE,
   0x0003EF_8003F4_0003B8_8003F7_0003F8_8003F9_0003F2_8003FA_0003FB_8003FD_00037B_8003FE,
   0x00037C_8003FF_00037D_800400_000450_800401_000451_800402_000452_800403_000453_800404,
   0x000454_800405_000455_800406_000456_800407_000457_800408_000458_800409_000459_80040A,
   0x00045A_80040B_00045B_80040C_00045C_80040D_00045D_80040E_00045E_80040F_00045F_800410,
   0x000430_800411_000431_800412_000432_800413_000433_800414_000434_800415_000435_800416,
   0x000436_800417_000437_800418_000438_800419_000439_80041A_00043A_80041B_00043B_80041C,
   0x00043C_80041D_00043D_80041E_00043E_80041F_00043F_800420_000440_800421_000441_800422,
   0x000442_800423_000443_800424_000444_800425_000445_800426_000446_800427_000447_800428,
   0x000448_800429_000449_80042A_00044A_80042B_00044B_80042C_00044C_80042D_00044D_80042E,
   0x00044E_80042F_00044F_800460_000461_800462_000463_800464_000465_800466_000467_800468,
   0x000469_80046A_00046B_80046C_00046D_80046E_00046F_800470_000471_800472_000473_800474,
   0x000475_800476_000477_800478_000479_80047A_00047B_80047C_00047D_80047E_00047F_800480,
   0x000481_80048A_00048B_80048C_00048D_80048E_00048F_800490_000491_800492_000493_800494,
   0x000495_800496_000497_800498_000499_80049A_00049B_80049C_00049D_80049E_00049F_8004A0,
   0x0004A1_8004A2_0004A3_8004A4_0004A5_8004A6_0004A7_8004A8_0004A9_8004AA_0004AB_8004AC,
   0x0004AD_8004AE_0004AF_8004B0_0004B1_8004B2_0004B3_8004B4_0004B5_8004B6_0004B7_8004B8,
   0x0004B9_8004BA_0004BB_8004BC_0004BD_8004BE_0004BF_8004C0_0004CF_8004C1_0004C2_8004C3,
   0x0004C4_8004C5_0004C6_8004C7_0004C8_8004C9_0004CA_8004CB_0004CC_8004CD_0004CE_8004D0,
   0x0004D1_8004D2_0004D3_8004D4_0004D5_8004D6_0004D7_8004D8_0004D9_8004DA_0004DB_8004DC,
   0x0004DD_8004DE_0004DF_8004E0_0004E1_8004E2_0004E3_8004E4_0004E5_8004E6_0004E7_8004E8,
   0x0004E9_8004EA_0004EB_8004EC_0004ED_8004EE_0004EF_8004F0_0004F1_8004F2_0004F3_8004F4,
   0x0004F5_8004F6_0004F7_8004F8_0004F9_8004FA_0004FB_8004FC_0004FD_8004FE_0004FF_800500,
   0x000501_800502_000503_800504_000505_800506_000507_800508_000509_80050A_00050B_80050C,
   0x00050D_80050E_00050F_800510_000511_800512_000513_800514_000515_800516_000517_800518,
   0x000519_80051A_00051B_80051C_00051D_80051E_00051F_800520_000521_800522_000523_800524,
   0x000525_800526_000527_800528_000529_80052A_00052B_80052C_00052D_80052E_00052F_800531,
   0x000561_800532_000562_800533_000563_800534_000564_800535_000565_800536_000566_800537,
   0x000567_800538_000568_800539_000569_80053A_00056A_80053B_00056B_80053C_00056C_80053D,
   0x00056D_80053E_00056E_80053F_00056F_800540_000570_800541_000571_800542_000572_800543,
   0x000573_800544_000574_800545_000575_800546_000576_800547_000577_800548_000578_800549,
   0x000579_80054A_00057A_80054B_00057B_80054C_00057C_80054D_00057D_80054E_00057E_80054F,
   0x00057F_800550_000580_800551_000581_800552_000582_800553_000583_800554_000584_800555,
   0x000585_800556_000586_8010A0_002D00_8010A1_002D01_8010A2_002D02_8010A3_002D03_8010A4,
   0x002D04_8010A5_002D05_8010A6_002D06_8010A7_002D07_8010A8_002D08_8010A9_002D09_8010AA,
   0x002D0A_8010AB_002D0B_8010AC_002D0C_8010AD_002D0D_8010AE_002D0E_8010AF_002D0F_8010B0,
   0x002D10_8010B1_002D11_8010B2_002D12_8010B3_002D13_8010B4_002D14_8010B5_002D15_8010B6,
   0x002D16_8010B7_002D17_8010B8_002D18_8010B9_002D19_8010BA_002D1A_8010BB_002D1B_8010BC,
   0x002D1C_8010BD_002D1D_8010BE_002D1E_8010BF_002D1F_8010C0_002D20_8010C1_002D21_8010C2,
   0x002D22_8010C3_002D23_8010C4_002D24_8010C5_002D25_8010C7_002D27_8010CD_002D2D_8013A0,
   0x00AB70_8013A1_00AB71_8013A2_00AB72_8013A3_00AB73_8013A4_00AB74_8013A5_00AB75_8013A6,
   0x00AB76_8013A7_00AB77_8013A8_00AB78_8013A9_00AB79_8013AA_00AB7A_8013AB_00AB7B_8013AC,
   0x00AB7C_8013AD_00AB7D_8013AE_00AB7E_8013AF_00AB7F_8013B0_00AB80_8013B1_00AB81_8013B2,
   0x00AB82_8013B3_00AB83_8013B4_00AB84_8013B5_00AB85_8013B6_00AB86_8013B7_00AB87_8013B8,
   0x00AB88_8013B9_00AB89_8013BA_00AB8A_8013BB_00AB8B_8013BC_00AB8C_8013BD_00AB8D_8013BE,
   0x00AB8E_8013BF_00AB8F_8013C0_00AB90_8013C1_00AB91_8013C2_00AB92_8013C3_00AB93_8013C4,
   0x00AB94_8013C5_00AB95_8013C6_00AB96_8013C7_00AB97_8013C8_00AB98_8013C9_00AB99_8013CA,
   0x00AB9A_8013CB_00AB9B_8013CC_00AB9C_8013CD_00AB9D_8013CE_00AB9E_8013CF_00AB9F_8013D0,
   0x00ABA0_8013D1_00ABA1_8013D2_00ABA2_8013D3_00ABA3_8013D4_00ABA4_8013D5_00ABA5_8013D6,
   0x00ABA6_8013D7_00ABA7_8013D8_00ABA8_8013D9_00ABA9_8013DA_00ABAA_8013DB_00ABAB_8013DC,
   0x00ABAC_8013DD_00ABAD_8013DE_00ABAE_8013DF_00ABAF_8013E0_00ABB0_8013E1_00ABB1_8013E2,
   0x00ABB2_8013E3_00ABB3_8013E4_00ABB4_8013E5_00ABB5_8013E6_00ABB6_8013E7_00ABB7_8013E8,
   0x00ABB8_8013E9_00ABB9_8013EA_00ABBA_8013EB_00ABBB_8013EC_00ABBC_8013ED_00ABBD_8013EE,
   0x00ABBE_8013EF_00ABBF_8013F0_0013F8_8013F1_0013F9_8013F2_0013FA_8013F3_0013FB_8013F4,
   0x0013FC_8013F5_0013FD_801C89_001C8A_801C90_0010D0_801C91_0010D1_801C92_0010D2_801C93,
   0x0010D3_801C94_0010D4_801C95_0010D5_801C96_0010D6_801C97_0010D7_801C98_0010D8_801C99,
   0x0010D9_801C9A_0010DA_801C9B_0010DB_801C9C_0010DC_801C9D_0010DD_801C9E_0010DE_801C9F,
   0x0010DF_801CA0_0010E0_801CA1_0010E1_801CA2_0010E2_801CA3_0010E3_801CA4_0010E4_801CA5,
   0x0010E5_801CA6_0010E6_801CA7_0010E7_801CA8_0010E8_801CA9_0010E9_801CAA_0010EA_801CAB,
   0x0010EB_801CAC_0010EC_801CAD_0010ED_801CAE_0010EE_801CAF_0010EF_801CB0_0010F0_801CB1,
   0x0010F1_801CB2_0010F2_801CB3_0010F3_801CB4_0010F4_801CB5_0010F5_801CB6_0010F6_801CB7,
   0x0010F7_801CB8_0010F8_801CB9_0010F9_801CBA_0010FA_801CBD_0010FD_801CBE_0010FE_801CBF,
   0x0010FF_801E00_001E01_801E02_001E03_801E04_001E05_801E06_001E07_801E08_001E09_801E0A,
   0x001E0B_801E0C_001E0D_801E0E_001E0F_801E10_001E11_801E12_001E13_801E14_001E15_801E16,
   0x001E17_801E18_001E19_801E1A_001E1B_801E1C_001E1D_801E1E_001E1F_801E20_001E21_801E22,
   0x001E23_801E24_001E25_801E26_001E27_801E28_001E29_801E2A_001E2B_801E2C_001E2D_801E2E,
   0x001E2F_801E30_001E31_801E32_001E33_801E34_001E35_801E36_001E37_801E38_001E39_801E3A,
   0x001E3B_801E3C_001E3D_801E3E_001E3F_801E40_001E41_801E42_001E43_801E44_001E45_801E46,
   0x001E47_801E48_001E49_801E4A_001E4B_801E4C_001E4D_801E4E_001E4F_801E50_001E51_801E52,
   0x001E53_801E54_001E55_801E56_001E57_801E58_001E59_801E5A_001E5B_801E5C_001E5D_801E5E,
   0x001E5F_801E60_001E61_801E62_001E63_801E64_001E65_801E66_001E67_801E68_001E69_801E6A,
   0x001E6B_801E6C_001E6D_801E6E_001E6F_801E70_001E71_801E72_001E73_801E74_001E75_801E76,
   0x001E77_801E78_001E79_801E7A_001E7B_801E7C_001E7D_801E7E_001E7F_801E80_001E81_801E82,
   0x001E83_801E84_001E85_801E86_001E87_801E88_001E89_801E8A_001E8B_801E8C_001E8D_801E8E,
   0x001E8F_801E90_001E91_801E92_001E93_801E94_001E95_801E9E_0000DF_801EA0_001EA1_801EA2,
   0x001EA3_801EA4_001EA5_801EA6_001EA7_801EA8_001EA9_801EAA_001EAB_801EAC_001EAD_801EAE,
   0x001EAF_801EB0_001EB1_801EB2_001EB3_801EB4_001EB5_801EB6_001EB7_801EB8_001EB9_801EBA,
   0x001EBB_801EBC_001EBD_801EBE_001EBF_801EC0_001EC1_801EC2_001EC3_801EC4_001EC5_801EC6,
   0x001EC7_801EC8_001EC9_801ECA_001ECB_801ECC_001ECD_801ECE_001ECF_801ED0_001ED1_801ED2,
   0x001ED3_801ED4_001ED5_801ED6_001ED7_801ED8_001ED9_801EDA_001EDB_801EDC_001EDD_801EDE,
   0x001EDF_801EE0_001EE1_801EE2_001EE3_801EE4_001EE5_801EE6_001EE7_801EE8_001EE9_801EEA,
   0x001EEB_801EEC_001EED_801EEE_001EEF_801EF0_001EF1_801EF2_001EF3_801EF4_001EF5_801EF6,
   0x001EF7_801EF8_001EF9_801EFA_001EFB_801EFC_001EFD_801EFE_001EFF_801F08_001F00_801F09,
   0x001F01_801F0A_001F02_801F0B_001F03_801F0C_001F04_801F0D_001F05_801F0E_001F06_801F0F,
   0x001F07_801F18_001F10_801F19_001F11_801F1A_001F12_801F1B_001F13_801F1C_001F14_801F1D,
   0x001F15_801F28_001F20_801F29_001F21_801F2A_001F22_801F2B_001F23_801F2C_001F24_801F2D,
   0x001F25_801F2E_001F26_801F2F_001F27_801F38_001F30_801F39_001F31_801F3A_001F32_801F3B,
   0x001F33_801F3C_001F34_801F3D_001F35_801F3E_001F36_801F3F_001F37_801F48_001F40_801F49,
   0x001F41_801F4A_001F42_801F4B_001F43_801F4C_001F44_801F4D_001F45_801F59_001F51_801F5B,
   0x001F53_801F5D_001F55_801F5F_001F57_801F68_001F60_801F69_001F61_801F6A_001F62_801F6B,
   0x001F63_801F6C_001F64_801F6D_001F65_801F6E_001F66_801F6F_001F67_801F88_001F80_801F89,
   0x001F81_801F8A_001F82_801F8B_001F83_801F8C_001F84_801F8D_001F85_801F8E_001F86_801F8F,
   0x001F87_801F98_001F90_801F99_001F91_801F9A_001F92_801F9B_001F93_801F9C_001F94_801F9D,
   0x001F95_801F9E_001F96_801F9F_001F97_801FA8_001FA0_801FA9_001FA1_801FAA_001FA2_801FAB,
   0x001FA3_801FAC_001FA4_801FAD_001FA5_801FAE_001FA6_801FAF_001FA7_801FB8_001FB0_801FB9,
   0x001FB1_801FBA_001F70_801FBB_001F71_801FBC_001FB3_801FC8_001F72_801FC9_001F73_801FCA,
   0x001F74_801FCB_001F75_801FCC_001FC3_801FD8_001FD0_801FD9_001FD1_801FDA_001F76_801FDB,
   0x001F77_801FE8_001FE0_801FE9_001FE1_801FEA_001F7A_801FEB_001F7B_801FEC_001FE5_801FF8,
   0x001F78_801FF9_001F79_801FFA_001F7C_801FFB_001F7D_801FFC_001FF3_802126_0003C9_80212A,
   0x00006B_80212B_0000E5_802132_00214E_802160_002170_802161_002171_802162_002172_802163,
   0x002173_802164_002174_802165_002175_802166_002176_802167_002177_802168_002178_802169,
   0x002179_80216A_00217A_80216B_00217B_80216C_00217C_80216D_00217D_80216E_00217E_80216F,
   0x00217F_802183_002184_8024B6_0024D0_8024B7_0024D1_8024B8_0024D2_8024B9_0024D3_8024BA,
   0x0024D4_8024BB_0024D5_8024BC_0024D6_8024BD_0024D7_8024BE_0024D8_8024BF_0024D9_8024C0,
   0x0024DA_8024C1_0024DB_8024C2_0024DC_8024C3_0024DD_8024C4_0024DE_8024C5_0024DF_8024C6]

def lowerRowsB : List Nat :=
  [0x0024E0_8024C7_0024E1_8024C8_0024E2_8024C9_0024E3_8024CA_0024E4_8024CB_0024E5_8024CC,
   0x0024E6_8024CD_0024E7_8024CE_0024E8_8024CF_0024E9_802C00_002C30_802C01_002C31_802C02,
   0x002C32_802C03_002C33_802C04_002C34_802C05_002C35_802C06_002C36_802C07_002C37_802C08,
   0x002C38_802C09_002C39_802C0A_002C3A_802C0B_002C3B_802C0C_002C3C_802C0D_002C3D_802C0E,
   0x002C3E_802C0F_002C3F_802C10_002C40_802C11_002C41_802C12_002C42_802C13_002C43_802C14,
   0x002C44_802C15_002C45_802C16_002C46_802C17_002C47_802C18_002C48_802C19_002C49_802C1A,
   0x002C4A_802C1B_002C4B_802C1C_002C4C_802C1D_002C4D_802C1E_002C4E_802C1F_002C4F_802C20,
   0x002C50_802C21_002C51_802C22_002C52_802C23_002C53_802C24_002C54_802C25_002C55_802C26,
   0x002C56_802C27_002C57_802C28_002C58_802C29_002C59_802C2A_002C5A_802C2B_002C5B_802C2C,
   0x002C5C_802C2D_002C5D_802C2E_002C5E_802C2F_002C5F_802C60_002C61_802C62_00026B_802C63,
   0x001D7D_802C64_00027D_802C67_002C68_802C69_002C6A_802C6B_002C6C_802C6D_000251_802C6E,
   0x000271_802C6F_000250_802C70_000252_802C72_002C73_802C75_002C76_802C7E_00023F_802C7F,
   0x000240_802C80_002C81_802C82_002C83_802C84_002C85_802C86_002C87_802C88_002C89_802C8A,
   0x002C8B_802C8C_002C8D_802C8E_002C8F_802C90_002C91_802C92_002C93_802C94_002C95_802C96,
   0x002C97_802C98_002C99_802C9A_002C9B_802C9C_002C9D_802C9E_002C9F_802CA0_002CA1_802CA2,
   0x002CA3_802CA4_002CA5_802CA6_002CA7_802CA8_002CA9_802CAA_002CAB_802CAC_002CAD_802CAE,
   0x002CAF_802CB0_002CB1_802CB2_002CB3_802CB4_002CB5_802CB6_002CB7_802CB8_002CB9_802CBA,
   0x002CBB_802CBC_002CBD_802CBE_002CBF_802CC0_002CC1_802CC2_002CC3_802CC4_002CC5_802CC6,
   0x002CC7_802CC8_002CC9_802CCA_002CCB_802CCC_002CCD_802CCE_002CCF_802CD0_002CD1_802CD2,
   0x002CD3_802CD4_002CD5_802CD6_002CD7_802CD8_002CD9_802CDA_002CDB_802CDC_002CDD_802CDE,
   0x002CDF_802CE0_002CE1_802CE2_002CE3_802CEB_002CEC_802CED_002CEE_802CF2_002CF3_80A640,
   0x00A641_80A642_00A643_80A644_00A645_80A646_00A647_80A648_00A649_80A64A_00A64B_80A64C,
   0x00A64D_80A64E_00A64F_80A650_00A651_80A652_00A653_80A654_00A655_80A656_00A657_80A658,
   0x00A659_80A65A_00A65B_80A65C_00A65D_80A65E_00A65F_80A660_00A661_80A662_00A663_80A664,
   0x00A665_80A666_00A667_80A668_00A669_80A66A_00A66B_80A66C_00A66D_80A680_00A681_80A682,
   0x00A683_80A684_00A685_80A686_00A687_80A688_00A689_80A68A_00A68B_80A68C_00A68D_80A68E,
   0x00A68F_80A690_00A691_80A692_00A693_80A694_00A695_80A696_00A697_80A698_00A699_80A69A,
   0x00A69B_80A722_00A723_80A724_00A725_80A726_00A727_80A728_00A729_80A72A_00A72B_80A72C,
   0x00A72D_80A72E_00A72F_80A732_00A733_80A734_00A735_80A736_00A737_80A738_00A739_80A73A,
   0x00A73B_80A73C_00A73D_80A73E_00A73F_80A740_00A741_80A742_00A743_80A744_00A745_80A746,
   0x00A747_80A748_00A749_80A74A_00A74B_80A74C_00A74D_80A74E_00A74F_80A750_00A751_80A752,
   0x00A753_80A754_00A755_80A756_00A757_80A758_00A759_80A75A_00A75B_80A75C_00A75D_80A75E,
   0x00A75F_80A760_00A761_80A762_00A763_80A764_00A765_80A766_00A767_80A768_00A769_80A76A,
   0x00A76B_80A76C_00A76D_80A76E_00A76F_80A779_00A77A_80A77B_00A77C_80A77D_001D79_80A77E,
   0x00A77F_80A780_00A781_80A782_00A783_80A784_00A785_80A786_00A787_80A78B_00A78C_80A78D,
   0x000265_80A790_00A791_80A792_00A793_80A796_00A797_80A798_00A799_80A79A_00A79B_80A79C,
   0x00A79D_80A79E_00A79F_80A7A0_00A7A1_80A7A2_00A7A3_80A7A4_00A7A5_80A7A6_00A7A7_80A7A8,
   0x00A7A9_80A7AA_000266_80A7AB_00025C_80A7AC_000261_80A7AD_00026C_80A7AE_00026A_80A7B0,
   0x00029E_80A7B1_000287_80A7B2_00029D_80A7B3_00AB53_80A7B4_00A7B5_80A7B6_00A7B7_80A7B8,
   0x00A7B9_80A7BA_00A7BB_80A7BC_00A7BD_80A7BE_00A7BF_80A7C0_00A7C1_80A7C2_00A7C3_80A7C4,
   0x00A794_80A7C5_000282_80A7C6_001D8E_80A7C7_00A7C8_80A7C9_00A7CA_80A7CB_000264_80A7CC,
   0x00A7CD_80A7D0_00A7D1_80A7D6_00A7D7_80A7D8_00A7D9_80A7DA_00A7DB_80A7DC_00019B_80A7F5,
   0x00A7F6_80FF21_00FF41_80FF22_00FF42_80FF23_00FF43_80FF24_00FF44_80FF25_00FF45_80FF26,
   0x00FF46_80FF27_00FF47_80FF28_00FF48_80FF29_00FF49_80FF2A_00FF4A_80FF2B_00FF4B_80FF2C,
   0x00FF4C_80FF2D_00FF4D_80FF2E_00FF4E_80FF2F_00FF4F_80FF30_00FF50_80FF31_00FF51_80FF32,
   0x00FF52_80FF33_00FF53_80FF34_00FF54_80FF35_00FF55_80FF36_00FF56_80FF37_00FF57_80FF38,
   0x00FF58_80FF39_00FF59_80FF3A_00FF5A_810400_010428_810401_010429_810402_01042A_810403,
   0x01042B_810404_01042C_810405_01042D_810406_01042E_810407_01042F_810408_010430_810409,
   0x010431_81040A_010432_81040B_010433_81040C_010434_81040D_010435_81040E_010436_81040F,
   0x010437_810410_010438_810411_010439_810412_01043A_810413_01043B_810414_01043C_810415,
   0x01043D_810416_01043E_810417_01043F_810418_010440_810419_010441_81041A_010442_81041B,
   0x010443_81041C_010444_81041D_010445_81041E_010446_81041F_010447_810420_010448_810421,
   0x010449_810422_01044A_810423_01044B_810424_01044C_810425_01044D_810426_01044E_810427,
   0x01044F_8104B0_0104D8_8104B1_0104D9_8104B2_0104DA_8104B3_0104DB_8104B4_0104DC_8104B5,
   0x0104DD_8104B6_0104DE_8104B7_0104DF_8104B8_0104E0_8104B9_0104E1_8104BA_0104E2_8104BB,
   0x0104E3_8104BC_0104E4_8104BD_0104E5_8104BE_0104E6_8104BF_0104E7_8104C0_0104E8_8104C1,
   0x0104E9_8104C2_0104EA_8104C3_0104EB_8104C4_0104EC_8104C5_0104ED_8104C6_0104EE_8104C7,
   0x0104EF_8104C8_0104F0_8104C9_0104F1_8104CA_0104F2_8104CB_0104F3_8104CC_0104F4_8104CD,
   0x0104F5_8104CE_0104F6_8104CF_0104F7_8104D0_0104F8_8104D1_0104F9_8104D2_0104FA_8104D3,
   0x0104FB_810570_010597_810571_010598_810572_010599_810573_01059A_810574_01059B_810575,
   0x01059C_810576_01059D_810577_01059E_810578_01059F_810579_0105A0_81057A_0105A1_81057C,
   0x0105A3_81057D_0105A4_81057E_0105A5_81057F_0105A6_810580_0105A7_810581_0105A8_810582,
   0x0105A9_810583_0105AA_810584_0105AB_810585_0105AC_810586_0105AD_810587_0105AE_810588,
   0x0105AF_810589_0105B0_81058A_0105B1_81058C_0105B3_81058D_0105B4_81058E_0105B5_81058F,
   0x0105B6_810590_0105B7_810591_0105B8_810592_0105B9_810594_0105BB_810595_0105BC_810C80,
   0x010CC0_810C81_010CC1_810C82_010CC2_810C83_010CC3_810C84_010CC4_810C85_010CC5_810C86,
   0x010CC6_810C87_010CC7_810C88_010CC8_810C89_010CC9_810C8A_010CCA_810C8B_010CCB_810C8C,
   0x010CCC_810C8D_010CCD_810C8E_010CCE_810C8F_010CCF_810C90_010CD0_810C91_010CD1_810C92,
   0x010CD2_810C93_010CD3_810C94_010CD4_810C95_010CD5_810C96_010CD6_810C97_010CD7_810C98,
   0x010CD8_810C99_010CD9_810C9A_010CDA_810C9B_010CDB_810C9C_010CDC_810C9D_010CDD_810C9E,
   0x010CDE_810C9F_010CDF_810CA0_010CE0_810CA1_010CE1_810CA2_010CE2_810CA3_010CE3_810CA4,
   0x010CE4_810CA5_010CE5_810CA6_010CE6_810CA7_010CE7_810CA8_010CE8_810CA9_010CE9_810CAA,
   0x010CEA_810CAB_010CEB_810CAC_010CEC_810CAD_010CED_810CAE_010CEE_810CAF_010CEF_810CB0,
   0x010CF0_810CB1_010CF1_810CB2_010CF2_810D50_010D70_810D51_010D71_810D52_010D72_810D53,
   0x010D73_810D54_010D74_810D55_010D75_810D56_010D76_810D57_010D77_810D58_010D78_810D59,
   0x010D79_810D5A_010D7A_810D5B_010D7B_810D5C_010D7C_810D5D_010D7D_810D5E_010D7E_810D5F,
   0x010D7F_810D60_010D80_810D61_010D81_810D62_010D82_810D63_010D83_810D64_010D84_810D65,
   0x010D85_8118A0_0118C0_8118A1_0118C1_8118A2_0118C2_8118A3_0118C3_8118A4_0118C4_8118A5,
   0x0118C5_8118A6_0118C6_8118A7_0118C7_8118A8_0118C8_8118A9_0118C9_8118AA_0118CA_8118AB,
   0x0118CB_8118AC_0118CC_8118AD_0118CD_8118AE_0118CE_8118AF_0118CF_8118B0_0118D0_8118B1,
   0x0118D1_8118B2_0118D2_8118B3_0118D3_8118B4_0118D4_8118B5_0118D5_8118B6_0118D6_8118B7,
   0x0118D7_8118B8_0118D8_8118B9_0118D9_8118BA_0118DA_8118BB_0118DB_8118BC_0118DC_8118BD,
   0x0118DD_8118BE_0118DE_8118BF_0118DF_816E40_016E60_816E41_016E61_816E42_016E62_816E43,
   0x016E63_816E44_016E64_816E45_016E65_816E46_016E66_816E47_016E67_816E48_016E68_816E49,
   0x016E69_816E4A_016E6A_816E4B_016E6B_816E4C_016E6C_816E4D_016E6D_816E4E_016E6E_816E4F,
   0x016E6F_816E50_016E70_816E51_016E71_816E52_016E72_816E53_016E73_816E54_016E74_816E55,
   0x016E75_816E56_016E76_816E57_016E77_816E58_016E78_816E59_016E79_816E5A_016E7A_816E5B,
   0x016E7B_816E5C_016E7C_816E5D_016E7D_816E5E_016E7E_816E5F_016E7F_81E900_01E922_81E901,
   0x01E923_81E902_01E924_81E903_01E925_81E904_01E926_81E905_01E927_81E906_01E928_81E907,
   0x01E929_81E908_01E92A_81E909_01E92B_81E90A_01E92C_81E90B_01E92D_81E90C_01E92E_81E90D,
   0x01E92F_81E90E_01E930_81E90F_01E931_81E910_01E932_81E911_01E933_81E912_01E934_81E913,
   0x01E935_81E914_01E936_81E915_01E937_81E916_01E938_81E917_01E939_81E918_01E93A_81E919,
   0x01E93B_81E91A_01E93C_81E91B_01E93D_81E91C_01E93E_81E91D_01E93F_81E91E_01E940_81E91F,
   0x01E941_81E920_01E942_81E921_01E943_FFFFFF_FFFFFF_FFFFFF_FFFFFF_FFFFFF_FFFFFF_FFFFFF]

def lowerRows : List Nat :=
  lowerRowsA ++ lowerRowsB

def casedRows : List Nat :=
  [0x000041_00005B_000061_00007B_0000AA_0000AB_0000B5_0000B6_0000BA_0000BB_0000C0_0000D7,
   0x0000D8_0000F7_0000F8_0001BB_0001BC_0001C0_0001C4_000294_000296_0002B9_0002C0_0002C2,
   0x0002E0_0002E5_000345_000346_000370_000374_000376_000378_00037A_00037E_00037F_000380,
   0x000386_000387_000388_00038B_00038C_00038D_00038E_0003A2_0003A3_0003F6_0003F7_000482,
   0x00048A_000530_000531_000557_000560_000589_0010A0_0010C6_0010C7_0010C8_0010CD_0010CE,
   0x0010D0_0010FB_0010FC_001100_0013A0_0013F6_0013F8_0013FE_001C80_001C8B_001C90_001CBB,
   0x001CBD_001CC0_001D00_001DC0_001E00_001F16_001F18_001F1E_001F20_001F46_001F48_001F4E,
   0x001F50_001F58_001F59_001F5A_001F5B_001F5C_001F5D_001F5E_001F5F_001F7E_001F80_001FB5,
   0x001FB6_001FBD_001FBE_001FBF_001FC2_001FC5_001FC6_001FCD_001FD0_001FD4_001FD6_001FDC,
   0x001FE0_001FED_001FF2_001FF5_001FF6_001FFD_002071_002072_00207F_002080_002090_00209D,
   0x002102_002103_002107_002108_00210A_002114_002115_002116_002119_00211E_002124_002125,
   0x002126_002127_002128_002129_00212A_00212E_00212F_002135_002139_00213A_00213C_002140,
   0x002145_00214A_00214E_00214F_002160_002180_002183_002185_0024B6_0024EA_002C00_002CE5,
   0x002CEB_002CEF_002CF2_002CF4_002D00_002D26_002D27_002D28_002D2D_002D2E_00A640_00A66E,
   0x00A680_00A69E_00A722_00A788_00A78B_00A78F_00A790_00A7CE_00A7D0_00A7D2_00A7D3_00A7D4,
   0x00A7D5_00A7DD_00A7F2_00A7F7_00A7F8_00A7FB_00AB30_00AB5B_00AB5C_00AB6A_00AB70_00ABC0,
   0x00FB00_00FB07_00FB13_00FB18_00FF21_00FF3B_00FF41_00FF5B_010400_010450_0104B0_0104D4,
   0x0104D8_0104FC_010570_01057B_01057C_01058B_01058C_010593_010594_010596_010597_0105A2,
   0x0105A3_0105B2_0105B3_0105BA_0105BB_0105BD_010780_010781_010783_010786_010787_0107B1,
   0x0107B2_0107BB_010C80_010CB3_010CC0_010CF3_010D50_010D66_010D70_010D86_0118A0_0118E0,
   0x016E40_016E80_01D400_01D455_01D456_01D49D_01D49E_01D4A0_01D4A2_01D4A3_01D4A5_01D4A7,
   0x01D4A9_01D4AD_01D4AE_01D4BA_01D4BB_01D4BC_01D4BD_01D4C4_01D4C5_01D506_01D507_01D50B,
   0x01D50D_01D515_01D516_01D51D_01D51E_01D53A_01D53B_01D53F_01D540_01D545_01D546_01D547,
   0x01D54A_01D551_01D552_01D6A6_01D6A8_01D6C1_01D6C2_01D6DB_01D6DC_01D6FB_01D6FC_01D715,
   0x01D716_01D735_01D736_01D74F_01D750_01D76F_01D770_01D789_01D78A_01D7A9_01D7AA_01D7C3,
   0x01D7C4_01D7CC_01DF00_01DF0A_01DF0B_01DF1F_01DF25_01DF2B_01E030_01E06E_01E900_01E944,
   0x01F130_01F14A_01F150_01F16A_01F170_01F18A_FFFFFF_FFFFFF_FFFFFF_FFFFFF_FFFFFF_FFFFFF]

def caseIgnorableRows : List Nat :=
  [0x000027_000028_00002E_00002F_00003A_00003B_00005E_00005F_000060_000061_0000A8_0000A9,
   0x0000AD_0000AE_0000AF_0000B0_0000B4_0000B5_0000B7_0000B9_0002B0_000370_000374_000376,
   0x00037A_00037B_000384_000386_000387_000388_000483_00048A_000559_00055A_00055F_000560,
   0x000591_0005BE_0005BF_0005C0_0005C1_0005C3_0005C4_0005C6_0005C7_0005C8_0005F4_0005F5,
   0x000600_000606_000610_00061B_00061C_00061D_000640_000641_00064B_000660_000670_000671,
   0x0006D6_0006DE_0006DF_0006E9_0006EA_0006EE_00070F_000710_000711_000712_000730_00074B,
   0x0007A6_0007B1_0007EB_0007F6_0007FA_0007FB_0007FD_0007FE_000816_00082E_000859_00085C,
   0x000888_000889_000890_000892_000897_0008A0_0008C9_000903_00093A_00093B_00093C_00093D,
   0x000941_000949_00094D_00094E_000951_000958_000962_000964_000971_000972_000981_000982,
   0x0009BC_0009BD_0009C1_0009C5_0009CD_0009CE_0009E2_0009E4_0009FE_0009FF_000A01_000A03,
   0x000A3C_000A3D_000A41_000A43_000A47_000A49_000A4B_000A4E_000A51_000A52_000A70_000A72,
   0x000A75_000A76_000A81_000A83_000ABC_000ABD_000AC1_000AC6_000AC7_000AC9_000ACD_000ACE,
   0x000AE2_000AE4_000AFA_000B00_000B01_000B02_000B3C_000B3D_000B3F_000B40_000B41_000B45,
   0x000B4D_000B4E_000B55_000B57_000B62_000B64_000B82_000B83_000BC0_000BC1_000BCD_000BCE,
   0x000C00_000C01_000C04_000C05_000C3C_000C3D_000C3E_000C41_000C46_000C49_000C4A_000C4E,
   0x000C55_000C57_000C62_000C64_000C81_000C82_000CBC_000CBD_000CBF_000CC0_000CC6_000CC7,
   0x000CCC_000CCE_000CE2_000CE4_000D00_000D02_000D3B_000D3D_000D41_000D45_000D4D_000D4E,
   0x000D62_000D64_000D81_000D82_000DCA_000DCB_000DD2_000DD5_000DD6_000DD7_000E31_000E32,
   0x000E34_000E3B_000E46_000E4F_000EB1_000EB2_000EB4_000EBD_000EC6_000EC7_000EC8_000ECF,
   0x000F18_000F1A_000F35_000F36_000F37_000F38_000F39_000F3A_000F71_000F7F_000F80_000F85,
   0x000F86_000F88_000F8D_000F98_000F99_000FBD_000FC6_000FC7_00102D_001031_001032_001038,
   0x001039_00103B_00103D_00103F_001058_00105A_00105E_001061_001071_001075_001082_001083,
   0x001085_001087_00108D_00108E_00109D_00109E_0010FC_0010FD_00135D_001360_001712_001715,
   0x001732_001734_001752_001754_001772_001774_0017B4_0017B6_0017B7_0017BE_0017C6_0017C7,
   0x0017C9_0017D4_0017D7_0017D8_0017DD_0017DE_00180B_001810_001843_001844_001885_001887,
   0x0018A9_0018AA_001920_001923_001927_001929_001932_001933_001939_00193C_001A17_001A19,
   0x001A1B_001A1C_001A56_001A57_001A58_001A5F_001A60_001A61_001A62_001A63_001A65_001A6D,
   0x001A73_001A7D_001A7F_001A80_001AA7_001AA8_001AB0_001ACF_001B00_001B04_001B34_001B35,
   0x001B36_001B3B_001B3C_001B3D_001B42_001B43_001B6B_001B74_001B80_001B82_001BA2_001BA6,
   0x001BA8_001BAA_001BAB_001BAE_001BE6_001BE7_001BE8_001BEA_001BED_001BEE_001BEF_001BF2,
   0x001C2C_001C34_001C36_001C38_001C78_001C7E_001CD0_001CD3_001CD4_001CE1_001CE2_001CE9,
   0x001CED_001CEE_001CF4_001CF5_001CF8_001CFA_001D2C_001D6B_001D78_001D79_001D9B_001E00,
   0x001FBD_001FBE_001FBF_001FC2_001FCD_001FD0_001FDD_001FE0_001FED_001FF0_001FFD_001FFF,
   0x00200B_002010_002018_00201A_002024_002025_002027_002028_00202A_00202F_002060_002065,
   0x002066_002070_002071_002072_00207F_002080_002090_00209D_0020D0_0020F1_002C7C_002C7E,
   0x002CEF_002CF2_002D6F_002D70_002D7F_002D80_002DE0_002E00_002E2F_002E30_003005_003006,
   0x00302A_00302E_003031_003036_00303B_00303C_003099_00309F_0030FC_0030FF_00A015_00A016,
   0x00A4F8_00A4FE_00A60C_00A60D_00A66F_00A673_00A674_00A67E_00A67F_00A680_00A69C_00A6A0,
   0x00A6F0_00A6F2_00A700_00A722_00A770_00A771_00A788_00A78B_00A7F2_00A7F5_00A7F8_00A7FA,
   0x00A802_00A803_00A806_00A807_00A80B_00A80C_00A825_00A827_00A82C_00A82D_00A8C4_00A8C6,
   0x00A8E0_00A8F2_00A8FF_00A900_00A926_00A92E_00A947_00A952_00A980_00A983_00A9B3_00A9B4,
   0x00A9B6_00A9BA_00A9BC_00A9BE_00A9CF_00A9D0_00A9E5_00A9E7_00AA29_00AA2F_00AA31_00AA33,
   0x00AA35_00AA37_00AA43_00AA44_00AA4C_00AA4D_00AA70_00AA71_00AA7C_00AA7D_00AAB0_00AAB1,
   0x00AAB2_00AAB5_00AAB7_00AAB9_00AABE_00AAC0_00AAC1_00AAC2_00AADD_00AADE_00AAEC_00AAEE,
   0x00AAF3_00AAF5_00AAF6_00AAF7_00AB5B_00AB60_00AB69_00AB6C_00ABE5_00ABE6_00ABE8_00ABE9,
   0x00ABED_00ABEE_00FB1E_00FB1F_00FBB2_00FBC3_00FE00_00FE10_00FE13_00FE14_00FE20_00FE30,
   0x00FE52_00FE53_00FE55_00FE56_00FEFF_00FF00_00FF07_00FF08_00FF0E_00FF0F_00FF1A_00FF1B,
   0x00FF3E_00FF3F_00FF40_00FF41_00FF70_00FF71_00FF9E_00FFA0_00FFE3_00FFE4_00FFF9_00FFFC,
   0x0101FD_0101FE_0102E0_0102E1_010376_01037B_010780_010786_010787_0107B1_0107B2_0107BB,
   0x010A01_010A04_010A05_010A07_010A0C_010A10_010A38_010A3B_010A3F_010A40_010AE5_010AE7,
   0x010D24_010D28_010D4E_010D4F_010D69_010D6E_010D6F_010D70_010EAB_010EAD_010EFC_010F00,
   0x010F46_010F51_010F82_010F86_011001_011002_011038_011047_011070_011071_011073_011075,
   0x01107F_011082_0110B3_0110B7_0110B9_0110BB_0110BD_0110BE_0110C2_0110C3_0110CD_0110CE,
   0x011100_011103_011127_01112C_01112D_011135_011173_011174_011180_011182_0111B6_0111BF,
   0x0111C9_0111CD_0111CF_0111D0_01122F_011232_011234_011235_011236_011238_01123E_01123F,
   0x011241_011242_0112DF_0112E0_0112E3_0112EB_011300_011302_01133B_01133D_011340_011341,
   0x011366_01136D_011370_011375_0113BB_0113C1_0113CE_0113CF_0113D0_0113D1_0113D2_0113D3,
   0x0113E1_0113E3_011438_011440_011442_011445_011446_011447_01145E_01145F_0114B3_0114B9,
   0x0114BA_0114BB_0114BF_0114C1_0114C2_0114C4_0115B2_0115B6_0115BC_0115BE_0115BF_0115C1,
   0x0115DC_0115DE_011633_01163B_01163D_01163E_01163F_011641_0116AB_0116AC_0116AD_0116AE,
   0x0116B0_0116B6_0116B7_0116B8_01171D_01171E_01171F_011720_011722_011726_011727_01172C,
   0x01182F_011838_011839_01183B_01193B_01193D_01193E_01193F_011943_011944_0119D4_0119D8,
   0x0119DA_0119DC_0119E0_0119E1_011A01_011A0B_011A33_011A39_011A3B_011A3F_011A47_011A48,
   0x011A51_011A57_011A59_011A5C_011A8A_011A97_011A98_011A9A_011C30_011C37_011C38_011C3E,
   0x011C3F_011C40_011C92_011CA8_011CAA_011CB1_011CB2_011CB4_011CB5_011CB7_011D31_011D37,
   0x011D3A_011D3B_011D3C_011D3E_011D3F_011D46_011D47_011D48_011D90_011D92_011D95_011D96,
   0x011D97_011D98_011EF3_011EF5_011F00_011F02_011F36_011F3B_011F40_011F41_011F42_011F43,
   0x011F5A_011F5B_013430_013441_013447_013456_01611E_01612A_01612D_016130_016AF0_016AF5,
   0x016B30_016B37_016B40_016B44_016D40_016D43_016D6B_016D6D_016F4F_016F50_016F8F_016FA0,
   0x016FE0_016FE2_016FE3_016FE5_01AFF0_01AFF4_01AFF5_01AFFC_01AFFD_01AFFF_01BC9D_01BC9F,
   0x01BCA0_01BCA4_01CF00_01CF2E_01CF30_01CF47_01D167_01D16A_01D173_01D183_01D185_01D18C,
   0x01D1AA_01D1AE_01D242_01D245_01DA00_01DA37_01DA3B_01DA6D_01DA75_01DA76_01DA84_01DA85,
   0x01DA9B_01DAA0_01DAA1_01DAB0_01E000_01E007_01E008_01E019_01E01B_01E022_01E023_01E025,
   0x01E026_01E02B_01E030_01E06E_01E08F_01E090_01E130_01E13E_01E2AE_01E2AF_01E2EC_01E2F0,
   0x01E4EB_01E4F0_01E5EE_01E5F0_01E8D0_01E8D7_01E944_01E94C_01F3FB_01F400_0E0001_0E0002,
   0x0E0020_0E0080_0E0100_0E01F0_FFFFFF_FFFFFF_FFFFFF_FFFFFF_FFFFFF_FFFFFF_FFFFFF_FFFFFF]

def lowerForms : CodeMap := .ofRows lowerRows

def cased : CodeSet := .ofRows casedRows

/-- The characters that are skipped in the search for a cased neighbour. -/
def caseIgnorable : CodeSet := .ofRows caseIgnorableRows

end Retrieval.Text
