import Retrieval.Text.CodeTable

/-!
# Tables for domain names

Classes and forms of the characters beyond the seven-bit range.

* `domainForms`, `ignored`, `forbidden` : how characters are replaced, left out and refused;
* `marks`, `joinsNext`, `joinsPrevious`, `transparent` : what stands next to what in a label;
* `rightToLeft`, `arabicDigits`, `europeanDigits`, `nonspacing`, `neutral` : directions of writing.
-/

namespace Retrieval.Url.DomainName

open Text (CodeMap CodeSet)

def domainFormRows : List Nat :=
  [0x800345_0003B9_80037A_000020_0003B9_8003F2_0003C3_8013A0_0013A0_8013A1_0013A1_8013A2,
   0x0013A2_8013A3_0013A3_8013A4_0013A4_8013A5_0013A5_8013A6_0013A6_8013A7_0013A7_8013A8,
   0x0013A8_8013A9_0013A9_8013AA_0013AA_8013AB_0013AB_8013AC_0013AC_8013AD_0013AD_8013AE,
   0x0013AE_8013AF_0013AF_8013B0_0013B0_8013B1_0013B1_8013B2_0013B2_8013B3_0013B3_8013B4,
   0x0013B4_8013B5_0013B5_8013B6_0013B6_8013B7_0013B7_8013B8_0013B8_8013B9_0013B9_8013BA,
   0x0013BA_8013BB_0013BB_8013BC_0013BC_8013BD_0013BD_8013BE_0013BE_8013BF_0013BF_8013C0,
   0x0013C0_8013C1_0013C1_8013C2_0013C2_8013C3_0013C3_8013C4_0013C4_8013C5_0013C5_8013C6,
   0x0013C6_8013C7_0013C7_8013C8_0013C8_8013C9_0013C9_8013CA_0013CA_8013CB_0013CB_8013CC,
   0x0013CC_8013CD_0013CD_8013CE_0013CE_8013CF_0013CF_8013D0_0013D0_8013D1_0013D1_8013D2,
   0x0013D2_8013D3_0013D3_8013D4_0013D4_8013D5_0013D5_8013D6_0013D6_8013D7_0013D7_8013D8,
   0x0013D8_8013D9_0013D9_8013DA_0013DA_8013DB_0013DB_8013DC_0013DC_8013DD_0013DD_8013DE,
   0x0013DE_8013DF_0013DF_8013E0_0013E0_8013E1_0013E1_8013E2_0013E2_8013E3_0013E3_8013E4,
   0x0013E4_8013E5_0013E5_8013E6_0013E6_8013E7_0013E7_8013E8_0013E8_8013E9_0013E9_8013EA,
   0x0013EA_8013EB_0013EB_8013EC_0013EC_8013ED_0013ED_8013EE_0013EE_8013EF_0013EF_8013F0,
   0x0013F0_8013F1_0013F1_8013F2_0013F2_8013F3_0013F3_8013F4_0013F4_8013F5_0013F5_8013F8,
   0x0013F0_8013F9_0013F1_8013FA_0013F2_8013FB_0013F3_8013FC_0013F4_8013FD_0013F5_801C80,
   0x000432_801C81_000434_801C82_00043E_801C83_000441_801C84_000442_801C85_000442_801C86,
   0x00044A_801C87_000463_801C88_00A64B_801F80_001F00_0003B9_801F81_001F01_0003B9_801F82,
   0x001F02_0003B9_801F83_001F03_0003B9_801F84_001F04_0003B9_801F85_001F05_0003B9_801F86,
   0x001F06_0003B9_801F87_001F07_0003B9_801F88_001F00_0003B9_801F89_001F01_0003B9_801F8A,
   0x001F02_0003B9_801F8B_001F03_0003B9_801F8C_001F04_0003B9_801F8D_001F05_0003B9_801F8E,
   0x001F06_0003B9_801F8F_001F07_0003B9_801F90_001F20_0003B9_801F91_001F21_0003B9_801F92,
   0x001F22_0003B9_801F93_001F23_0003B9_801F94_001F24_0003B9_801F95_001F25_0003B9_801F96,
   0x001F26_0003B9_801F97_001F27_0003B9_801F98_001F20_0003B9_801F99_001F21_0003B9_801F9A,
   0x001F22_0003B9_801F9B_001F23_0003B9_801F9C_001F24_0003B9_801F9D_001F25_0003B9_801F9E,
   0x001F26_0003B9_801F9F_001F27_0003B9_801FA0_001F60_0003B9_801FA1_001F61_0003B9_801FA2,
   0x001F62_0003B9_801FA3_001F63_0003B9_801FA4_001F64_0003B9_801FA5_001F65_0003B9_801FA6,
   0x001F66_0003B9_801FA7_001F67_0003B9_801FA8_001F60_0003B9_801FA9_001F61_0003B9_801FAA,
   0x001F62_0003B9_801FAB_001F63_0003B9_801FAC_001F64_0003B9_801FAD_001F65_0003B9_801FAE,
   0x001F66_0003B9_801FAF_001F67_0003B9_801FB2_001F70_0003B9_801FB3_0003B1_0003B9_801FB4,
   0x0003AC_0003B9_801FB7_001FB6_0003B9_801FBC_0003B1_0003B9_801FC2_001F74_0003B9_801FC3,
   0x0003B7_0003B9_801FC4_0003AE_0003B9_801FC7_001FC6_0003B9_801FCC_0003B7_0003B9_801FF2,
   0x001F7C_0003B9_801FF3_0003C9_0003B9_801FF4_0003CE_0003B9_801FF7_001FF6_0003B9_801FFC,
   0x0003C9_0003B9_803002_00002E_80AB70_0013A0_80AB71_0013A1_80AB72_0013A2_80AB73_0013A3,
   0x80AB74_0013A4_80AB75_0013A5_80AB76_0013A6_80AB77_0013A7_80AB78_0013A8_80AB79_0013A9,
   0x80AB7A_0013AA_80AB7B_0013AB_80AB7C_0013AC_80AB7D_0013AD_80AB7E_0013AE_80AB7F_0013AF,
   0x80AB80_0013B0_80AB81_0013B1_80AB82_0013B2_80AB83_0013B3_80AB84_0013B4_80AB85_0013B5,
   0x80AB86_0013B6_80AB87_0013B7_80AB88_0013B8_80AB89_0013B9_80AB8A_0013BA_80AB8B_0013BB,
   0x80AB8C_0013BC_80AB8D_0013BD_80AB8E_0013BE_80AB8F_0013BF_80AB90_0013C0_80AB91_0013C1,
   0x80AB92_0013C2_80AB93_0013C3_80AB94_0013C4_80AB95_0013C5_80AB96_0013C6_80AB97_0013C7,
   0x80AB98_0013C8_80AB99_0013C9_80AB9A_0013CA_80AB9B_0013CB_80AB9C_0013CC_80AB9D_0013CD,
   0x80AB9E_0013CE_80AB9F_0013CF_80ABA0_0013D0_80ABA1_0013D1_80ABA2_0013D2_80ABA3_0013D3,
   0x80ABA4_0013D4_80ABA5_0013D5_80ABA6_0013D6_80ABA7_0013D7_80ABA8_0013D8_80ABA9_0013D9,
   0x80ABAA_0013DA_80ABAB_0013DB_80ABAC_0013DC_80ABAD_0013DD_80ABAE_0013DE_80ABAF_0013DF,
   0x80ABB0_0013E0_80ABB1_0013E1_80ABB2_0013E2_80ABB3_0013E3_80ABB4_0013E4_80ABB5_0013E5,
   0x80ABB6_0013E6_80ABB7_0013E7_80ABB8_0013E8_80ABB9_0013E9_80ABBA_0013EA_80ABBB_0013EB,
   0x80ABBC_0013EC_80ABBD_0013ED_80ABBE_0013EE_80ABBF_0013EF_80FF61_00002E_81D6D3_0003C3,
   0x81D70D_0003C3_81D747_0003C3_81D781_0003C3_81D7BB_0003C3_FFFFFF_FFFFFF_FFFFFF_FFFFFF]

def ignoredRows : List Nat :=
  [0x0000AD_0000AE_00034F_000350_00115F_001161_0017B4_0017B6_00180B_001810_00200B_00200C,
   0x002060_002065_00206A_002070_003164_003165_00FE00_00FE10_00FEFF_00FF00_00FFA0_00FFA1,
   0x01BCA0_01BCA4_01D173_01D17B_0E0100_0E01F0_FFFFFF_FFFFFF_FFFFFF_FFFFFF_FFFFFF_FFFFFF]

def forbiddenRows : List Nat :=
  [0x000080_0000A0_000378_00037A_000380_000384_00038B_00038C_00038D_00038E_0003A2_0003A3,
   0x000530_000531_000557_000559_00058B_00058D_000590_000591_0005C8_0005D0_0005EB_0005EF,
   0x0005F5_000606_00061C_00061D_0006DD_0006DE_00070E_000710_00074B_00074D_0007B2_0007C0,
   0x0007FB_0007FD_00082E_000830_00083F_000840_00085C_00085E_00085F_000860_00086B_000870,
   0x00088F_000897_0008E2_0008E3_000984_000985_00098D_00098F_000991_000993_0009A9_0009AA,
   0x0009B1_0009B2_0009B3_0009B6_0009BA_0009BC_0009C5_0009C7_0009C9_0009CB_0009CF_0009D7,
   0x0009D8_0009DC_0009DE_0009DF_0009E4_0009E6_0009FF_000A01_000A04_000A05_000A0B_000A0F,
   0x000A11_000A13_000A29_000A2A_000A31_000A32_000A34_000A35_000A37_000A38_000A3A_000A3C,
   0x000A3D_000A3E_000A43_000A47_000A49_000A4B_000A4E_000A51_000A52_000A59_000A5D_000A5E,
   0x000A5F_000A66_000A77_000A81_000A84_000A85_000A8E_000A8F_000A92_000A93_000AA9_000AAA,
   0x000AB1_000AB2_000AB4_000AB5_000ABA_000ABC_000AC6_000AC7_000ACA_000ACB_000ACE_000AD0,
   0x000AD1_000AE0_000AE4_000AE6_000AF2_000AF9_000B00_000B01_000B04_000B05_000B0D_000B0F,
   0x000B11_000B13_000B29_000B2A_000B31_000B32_000B34_000B35_000B3A_000B3C_000B45_000B47,
   0x000B49_000B4B_000B4E_000B55_000B58_000B5C_000B5E_000B5F_000B64_000B66_000B78_000B82,
   0x000B84_000B85_000B8B_000B8E_000B91_000B92_000B96_000B99_000B9B_000B9C_000B9D_000B9E,
   0x000BA0_000BA3_000BA5_000BA8_000BAB_000BAE_000BBA_000BBE_000BC3_000BC6_000BC9_000BCA,
   0x000BCE_000BD0_000BD1_000BD7_000BD8_000BE6_000BFB_000C00_000C0D_000C0E_000C11_000C12,
   0x000C29_000C2A_000C3A_000C3C_000C45_000C46_000C49_000C4A_000C4E_000C55_000C57_000C58,
   0x000C5B_000C5D_000C5E_000C60_000C64_000C66_000C70_000C77_000C8D_000C8E_000C91_000C92,
   0x000CA9_000CAA_000CB4_000CB5_000CBA_000CBC_000CC5_000CC6_000CC9_000CCA_000CCE_000CD5,
   0x000CD7_000CDD_000CDF_000CE0_000CE4_000CE6_000CF0_000CF1_000CF4_000D00_000D0D_000D0E,
   0x000D11_000D12_000D45_000D46_000D49_000D4A_000D50_000D54_000D64_000D66_000D80_000D81,
   0x000D84_000D85_000D97_000D9A_000DB2_000DB3_000DBC_000DBD_000DBE_000DC0_000DC7_000DCA,
   0x000DCB_000DCF_000DD5_000DD6_000DD7_000DD8_000DE0_000DE6_000DF0_000DF2_000DF5_000E01,
   0x000E3B_000E3F_000E5C_000E81_000E83_000E84_000E85_000E86_000E8B_000E8C_000EA4_000EA5,
   0x000EA6_000EA7_000EBE_000EC0_000EC5_000EC6_000EC7_000EC8_000ECF_000ED0_000EDA_000EDC,
   0x000EE0_000F00_000F48_000F49_000F6D_000F71_000F98_000F99_000FBD_000FBE_000FCD_000FCE,
   0x000FDB_001000_0010C6_0010C7_0010C8_0010CD_0010CE_0010D0_001249_00124A_00124E_001250,
   0x001257_001258_001259_00125A_00125E_001260_001289_00128A_00128E_001290_0012B1_0012B2,
   0x0012B6_0012B8_0012BF_0012C0_0012C1_0012C2_0012C6_0012C8_0012D7_0012D8_001311_001312,
   0x001316_001318_00135B_00135D_00137D_001380_00139A_0013A0_0013F6_0013F8_0013FE_001400,
   0x001680_001681_00169D_0016A0_0016F9_001700_001716_00171F_001737_001740_001754_001760,
   0x00176D_00176E_001771_001772_001774_001780_0017DE_0017E0_0017EA_0017F0_0017FA_001800,
   0x00181A_001820_001879_001880_0018AB_0018B0_0018F6_001900_00191F_001920_00192C_001930,
   0x00193C_001940_001941_001944_00196E_001970_001975_001980_0019AC_0019B0_0019CA_0019D0,
   0x0019DB_0019DE_001A1C_001A1E_001A5F_001A60_001A7D_001A7F_001A8A_001A90_001A9A_001AA0,
   0x001AAE_001AB0_001ACF_001B00_001B4D_001B4E_001BF4_001BFC_001C38_001C3B_001C4A_001C4D,
   0x001C8B_001C90_001CBB_001CBD_001CC8_001CD0_001CFB_001D00_001F16_001F18_001F1E_001F20,
   0x001F46_001F48_001F4E_001F50_001F58_001F59_001F5A_001F5B_001F5C_001F5D_001F5E_001F5F,
   0x001F7E_001F80_001FB5_001FB6_001FC5_001FC6_001FD4_001FD6_001FDC_001FDD_001FF0_001FF2,
   0x001FF5_001FF6_001FFF_002000_00200E_002010_002024_002027_002028_00202F_002065_00206A,
   0x002072_002074_00208F_002090_00209D_0020A0_0020C1_0020D0_0020F1_002100_00218C_002190,
   0x00242A_002440_00244B_002460_002488_00249C_002B74_002B76_002B96_002B97_002CF4_002CF9,
   0x002D26_002D27_002D28_002D2D_002D2E_002D30_002D68_002D6F_002D71_002D7F_002D97_002DA0,
   0x002DA7_002DA8_002DAF_002DB0_002DB7_002DB8_002DBF_002DC0_002DC7_002DC8_002DCF_002DD0,
   0x002DD7_002DD8_002DDF_002DE0_002E5E_002E80_002E9A_002E9B_002EF4_002F00_002FD6_003000,
   0x003040_003041_003097_003099_003100_003105_003130_003131_00318F_003190_0031E6_0031F0,
   0x00321F_003220_0033C2_0033C3_0033C7_0033C8_0033D8_0033D9_00A48D_00A490_00A4C7_00A4D0,
   0x00A62C_00A640_00A6F8_00A700_00A7CE_00A7D0_00A7D2_00A7D3_00A7D4_00A7D5_00A7DD_00A7F2,
   0x00A82D_00A830_00A83A_00A840_00A878_00A880_00A8C6_00A8CE_00A8DA_00A8E0_00A954_00A95F,
   0x00A97D_00A980_00A9CE_00A9CF_00A9DA_00A9DE_00A9FF_00AA00_00AA37_00AA40_00AA4E_00AA50,
   0x00AA5A_00AA5C_00AAC3_00AADB_00AAF7_00AB01_00AB07_00AB09_00AB0F_00AB11_00AB17_00AB20,
   0x00AB27_00AB28_00AB2F_00AB30_00AB6C_00AB70_00ABEE_00ABF0_00ABFA_00AC00_00D7A4_00D7B0,
   0x00D7C7_00D7CB_00D7FC_00F900_00FA6E_00FA70_00FADA_00FB00_00FB07_00FB13_00FB18_00FB1D,
   0x00FB37_00FB38_00FB3D_00FB3E_00FB3F_00FB40_00FB42_00FB43_00FB45_00FB46_00FBC3_00FBD3,
   0x00FD90_00FD92_00FDC8_00FDCF_00FDD0_00FDF0_00FE12_00FE13_00FE19_00FE20_00FE30_00FE31,
   0x00FE52_00FE54_00FE67_00FE68_00FE6C_00FE70_00FE75_00FE76_00FEFD_00FEFF_00FF00_00FF01,
   0x00FFBF_00FFC2_00FFC8_00FFCA_00FFD0_00FFD2_00FFD8_00FFDA_00FFDD_00FFE0_00FFE7_00FFE8,
   0x00FFEF_010000_01000C_01000D_010027_010028_01003B_01003C_01003E_01003F_01004E_010050,
   0x01005E_010080_0100FB_010100_010103_010107_010134_010137_01018F_010190_01019D_0101A0,
   0x0101A1_0101D0_0101FE_010280_01029D_0102A0_0102D1_0102E0_0102FC_010300_010324_01032D,
   0x01034B_010350_01037B_010380_01039E_01039F_0103C4_0103C8_0103D6_010400_01049E_0104A0,
   0x0104AA_0104B0_0104D4_0104D8_0104FC_010500_010528_010530_010564_01056F_01057B_01057C,
   0x01058B_01058C_010593_010594_010596_010597_0105A2_0105A3_0105B2_0105B3_0105BA_0105BB,
   0x0105BD_0105C0_0105F4_010600_010737_010740_010756_010760_010768_010780_010786_010787,
   0x0107B1_0107B2_0107BB_010800_010806_010808_010809_01080A_010836_010837_010839_01083C,
   0x01083D_01083F_010856_010857_01089F_0108A7_0108B0_0108E0_0108F3_0108F4_0108F6_0108FB,
   0x01091C_01091F_01093A_01093F_010940_010980_0109B8_0109BC_0109D0_0109D2_010A04_010A05,
   0x010A07_010A0C_010A14_010A15_010A18_010A19_010A36_010A38_010A3B_010A3F_010A49_010A50,
   0x010A59_010A60_010AA0_010AC0_010AE7_010AEB_010AF7_010B00_010B36_010B39_010B56_010B58,
   0x010B73_010B78_010B92_010B99_010B9D_010BA9_010BB0_010C00_010C49_010C80_010CB3_010CC0,
   0x010CF3_010CFA_010D28_010D30_010D3A_010D40_010D66_010D69_010D86_010D8E_010D90_010E60,
   0x010E7F_010E80_010EAA_010EAB_010EAE_010EB0_010EB2_010EC2_010EC5_010EFC_010F28_010F30,
   0x010F5A_010F70_010F8A_010FB0_010FCC_010FE0_010FF7_011000_01104E_011052_011076_01107F,
   0x0110BD_0110BE_0110C3_0110D0_0110E9_0110F0_0110FA_011100_011135_011136_011148_011150,
   0x011177_011180_0111E0_0111E1_0111F5_011200_011212_011213_011242_011280_011287_011288,
   0x011289_01128A_01128E_01128F_01129E_01129F_0112AA_0112B0_0112EB_0112F0_0112FA_011300,
   0x011304_011305_01130D_01130F_011311_011313_011329_01132A_011331_011332_011334_011335,
   0x01133A_01133B_011345_011347_011349_01134B_01134E_011350_011351_011357_011358_01135D,
   0x011364_011366_01136D_011370_011375_011380_01138A_01138B_01138C_01138E_01138F_011390,
   0x0113B6_0113B7_0113C1_0113C2_0113C3_0113C5_0113C6_0113C7_0113CB_0113CC_0113D6_0113D7,
   0x0113D9_0113E1_0113E3_011400_01145C_01145D_011462_011480_0114C8_0114D0_0114DA_011580,
   0x0115B6_0115B8_0115DE_011600_011645_011650_01165A_011660_01166D_011680_0116BA_0116C0,
   0x0116CA_0116D0_0116E4_011700_01171B_01171D_01172C_011730_011747_011800_01183C_0118A0,
   0x0118F3_0118FF_011907_011909_01190A_01190C_011914_011915_011917_011918_011936_011937,
   0x011939_01193B_011947_011950_01195A_0119A0_0119A8_0119AA_0119D8_0119DA_0119E5_011A00,
   0x011A48_011A50_011AA3_011AB0_011AF9_011B00_011B0A_011BC0_011BE2_011BF0_011BFA_011C00,
   0x011C09_011C0A_011C37_011C38_011C46_011C50_011C6D_011C70_011C90_011C92_011CA8_011CA9,
   0x011CB7_011D00_011D07_011D08_011D0A_011D0B_011D37_011D3A_011D3B_011D3C_011D3E_011D3F,
   0x011D48_011D50_011D5A_011D60_011D66_011D67_011D69_011D6A_011D8F_011D90_011D92_011D93,
   0x011D99_011DA0_011DAA_011EE0_011EF9_011F00_011F11_011F12_011F3B_011F3E_011F5B_011FB0,
   0x011FB1_011FC0_011FF2_011FFF_01239A_012400_01246F_012470_012475_012480_012544_012F90,
   0x012FF3_013000_013430_013440_013456_013460_0143FB_014400_014647_016100_01613A_016800,
   0x016A39_016A40_016A5F_016A60_016A6A_016A6E_016ABF_016AC0_016ACA_016AD0_016AEE_016AF0,
   0x016AF6_016B00_016B46_016B50_016B5A_016B5B_016B62_016B63_016B78_016B7D_016B90_016D40,
   0x016D7A_016E40_016E9B_016F00_016F4B_016F4F_016F88_016F8F_016FA0_016FE0_016FE5_016FF0,
   0x016FF2_017000_0187F8_018800_018CD6_018CFF_018D09_01AFF0_01AFF4_01AFF5_01AFFC_01AFFD,
   0x01AFFF_01B000_01B123_01B132_01B133_01B150_01B153_01B155_01B156_01B164_01B168_01B170,
   0x01B2FC_01BC00_01BC6B_01BC70_01BC7D_01BC80_01BC89_01BC90_01BC9A_01BC9C_01BCA4_01CC00,
   0x01CCFA_01CD00_01CEB4_01CF00_01CF2E_01CF30_01CF47_01CF50_01CFC4_01D000_01D0F6_01D100,
   0x01D127_01D129_01D1EB_01D200_01D246_01D2C0_01D2D4_01D2E0_01D2F4_01D300_01D357_01D360,
   0x01D379_01D400_01D455_01D456_01D49D_01D49E_01D4A0_01D4A2_01D4A3_01D4A5_01D4A7_01D4A9,
   0x01D4AD_01D4AE_01D4BA_01D4BB_01D4BC_01D4BD_01D4C4_01D4C5_01D506_01D507_01D50B_01D50D,
   0x01D515_01D516_01D51D_01D51E_01D53A_01D53B_01D53F_01D540_01D545_01D546_01D547_01D54A,
   0x01D551_01D552_01D6A6_01D6A8_01D7CC_01D7CE_01DA8C_01DA9B_01DAA0_01DAA1_01DAB0_01DF00,
   0x01DF1F_01DF25_01DF2B_01E000_01E007_01E008_01E019_01E01B_01E022_01E023_01E025_01E026,
   0x01E02B_01E030_01E06E_01E08F_01E090_01E100_01E12D_01E130_01E13E_01E140_01E14A_01E14E,
   0x01E150_01E290_01E2AF_01E2C0_01E2FA_01E2FF_01E300_01E4D0_01E4FA_01E5D0_01E5FB_01E5FF,
   0x01E600_01E7E0_01E7E7_01E7E8_01E7EC_01E7ED_01E7EF_01E7F0_01E7FF_01E800_01E8C5_01E8C7,
   0x01E8D7_01E900_01E94C_01E950_01E95A_01E95E_01E960_01EC71_01ECB5_01ED01_01ED3E_01EE00,
   0x01EE04_01EE05_01EE20_01EE21_01EE23_01EE24_01EE25_01EE27_01EE28_01EE29_01EE33_01EE34,
   0x01EE38_01EE39_01EE3A_01EE3B_01EE3C_01EE42_01EE43_01EE47_01EE48_01EE49_01EE4A_01EE4B,
   0x01EE4C_01EE4D_01EE50_01EE51_01EE53_01EE54_01EE55_01EE57_01EE58_01EE59_01EE5A_01EE5B,
   0x01EE5C_01EE5D_01EE5E_01EE5F_01EE60_01EE61_01EE63_01EE64_01EE65_01EE67_01EE6B_01EE6C,
   0x01EE73_01EE74_01EE78_01EE79_01EE7D_01EE7E_01EE7F_01EE80_01EE8A_01EE8B_01EE9C_01EEA1,
   0x01EEA4_01EEA5_01EEAA_01EEAB_01EEBC_01EEF0_01EEF2_01F000_01F02C_01F030_01F094_01F0A0,
   0x01F0AF_01F0B1_01F0C0_01F0C1_01F0D0_01F0D1_01F0F6_01F101_01F1AE_01F1E6_01F203_01F210,
   0x01F23C_01F240_01F249_01F250_01F252_01F260_01F266_01F300_01F6D8_01F6DC_01F6ED_01F6F0,
   0x01F6FD_01F700_01F777_01F77B_01F7DA_01F7E0_01F7EC_01F7F0_01F7F1_01F800_01F80C_01F810,
   0x01F848_01F850_01F85A_01F860_01F888_01F890_01F8AE_01F8B0_01F8BC_01F8C0_01F8C2_01F900,
   0x01FA54_01FA60_01FA6E_01FA70_01FA7D_01FA80_01FA8A_01FA8F_01FAC7_01FACE_01FADD_01FADF,
   0x01FAEA_01FAF0_01FAF9_01FB00_01FB93_01FB94_01FBFA_020000_02A6E0_02A700_02B73A_02B740,
   0x02B81E_02B820_02CEA2_02CEB0_02EBE1_02EBF0_02EE5E_02F800_02FA1E_030000_03134B_031350,
   0x0323B0_0E0100_0E01F0_110000_FFFFFF_FFFFFF_FFFFFF_FFFFFF_FFFFFF_FFFFFF_FFFFFF_FFFFFF]

def markRows : List Nat :=
  [0x000300_000371_000483_00048B_000591_0005BE_0005BF_0005C0_0005C1_0005C3_0005C4_0005C6,
   0x0005C7_0005D0_000610_00061B_00064B_000660_000670_000671_0006D6_0006DE_0006DF_0006E5,
   0x0006E7_0006E9_0006EA_0006EE_000711_000712_000730_00074D_0007A6_0007B1_0007EB_0007F4,
   0x0007FD_0007FE_000816_00081A_00081B_000824_000825_000828_000829_000830_000859_00085E,
   0x000897_0008A0_0008CA_000904_00093A_00093D_00093E_000950_000951_000960_000962_000964,
   0x000981_000985_0009BC_0009BD_0009BE_0009CE_0009D7_0009E0_0009E2_0009E6_0009FE_000A05,
   0x000A3C_000A5C_000A70_000A72_000A75_000A76_000A81_000A85_000ABC_000ABD_000ABE_000AD0,
   0x000AE2_000AE6_000AFA_000B05_000B3C_000B3D_000B3E_000B5F_000B62_000B66_000B82_000B83,
   0x000BBE_000BD0_000BD7_000BE6_000C00_000C05_000C3C_000C3D_000C3E_000C58_000C62_000C66,
   0x000C81_000C84_000CBC_000CBD_000CBE_000CDD_000CE2_000CE6_000CF3_000D04_000D3B_000D3D,
   0x000D3E_000D4E_000D57_000D58_000D62_000D66_000D81_000D85_000DCA_000DE6_000DF2_000DF4,
   0x000E31_000E32_000E34_000E3F_000E47_000E4F_000EB1_000EB2_000EB4_000EBD_000EC8_000ED0,
   0x000F18_000F1A_000F35_000F36_000F37_000F38_000F39_000F3A_000F3E_000F40_000F71_000F85,
   0x000F86_000F88_000F8D_000FBE_000FC6_000FC7_00102B_00103F_001056_00105A_00105E_001061,
   0x001062_001065_001067_00106E_001071_001075_001082_00108E_00108F_001090_00109A_00109E,
   0x00135D_001360_001712_00171F_001732_001735_001752_001760_001772_001780_0017B6_0017D4,
   0x0017DD_0017E0_001885_001887_0018A9_0018AA_001920_001940_001A17_001A1E_001A55_001A80,
   0x001AB0_001B05_001B34_001B45_001B6B_001B74_001B80_001B83_001BA1_001BAE_001BE6_001BFC,
   0x001C24_001C3B_001CD0_001CD3_001CD4_001CE9_001CED_001CEE_001CF4_001CF5_001CF7_001CFA,
   0x001DC0_001E01_0020D0_002104_002CEF_002CF3_002D7F_002D80_002DE0_002E00_00302A_003030,
   0x003099_00309D_00A66F_00A673_00A674_00A67E_00A69E_00A6A0_00A6F0_00A6F2_00A802_00A803,
   0x00A806_00A807_00A80B_00A80C_00A823_00A828_00A82C_00A830_00A880_00A882_00A8B4_00A8CE,
   0x00A8E0_00A8F2_00A8FF_00A900_00A926_00A92E_00A947_00A95F_00A980_00A984_00A9B3_00A9C1,
   0x00A9E5_00A9E6_00AA29_00AA40_00AA43_00AA44_00AA4C_00AA50_00AA7B_00AA7E_00AAB0_00AAB1,
   0x00AAB2_00AAB5_00AAB7_00AAB9_00AABE_00AAC0_00AAC1_00AAC2_00AAEB_00AAF0_00AAF5_00AB01,
   0x00ABE3_00ABEB_00ABEC_00ABF0_00FB1E_00FBB2_00FE20_00FE45_0101FD_010280_0102E0_0102E1,
   0x010376_010380_010A01_010A10_010A38_010A40_010AE5_010AEB_010D24_010D30_010D69_010D6E,
   0x010EAB_010EAD_010EFC_010F00_010F46_010F51_010F82_010F86_011000_011003_011038_011047,
   0x011070_011071_011073_011075_01107F_011083_0110B0_0110BB_0110C2_0110D0_011100_011103,
   0x011127_011136_011145_011147_011173_011174_011180_011183_0111B3_0111C1_0111C9_0111CD,
   0x0111CE_0111D0_01122C_011238_01123E_01123F_011241_011280_0112DF_0112F0_011300_011305,
   0x01133B_01133D_01133E_011350_011357_01135D_011362_011380_0113B8_0113D1_0113D2_0113D3,
   0x0113E1_011400_011435_011447_01145E_01145F_0114B0_0114C4_0115AF_0115C1_0115DC_011600,
   0x011630_011641_0116AB_0116B8_01171D_011730_01182C_01183B_011930_01193F_011940_011941,
   0x011942_011944_0119D1_0119E1_0119E4_011A00_011A01_011A0B_011A33_011A3A_011A3B_011A3F,
   0x011A47_011A50_011A51_011A5C_011A8A_011A9A_011C2F_011C40_011C92_011D00_011D31_011D46,
   0x011D47_011D50_011D8A_011D98_011EF3_011EF7_011F00_011F02_011F03_011F04_011F34_011F43,
   0x011F5A_011FB0_013440_013441_013447_013460_01611E_016130_016AF0_016AF5_016B30_016B37,
   0x016F4F_016F50_016F51_016F93_016FE4_017000_01BC9D_01BC9F_01CF00_01CF50_01D165_01D16A,
   0x01D16D_01D183_01D185_01D18C_01D1AA_01D1AE_01D242_01D245_01DA00_01DA37_01DA3B_01DA6D,
   0x01DA75_01DA76_01DA84_01DA85_01DA9B_01DF00_01E000_01E100_01E130_01E137_01E2AE_01E2C0,
   0x01E2EC_01E2F0_01E4EC_01E4F0_01E5EE_01E5F0_01E8D0_01E922_01E944_01E94B_FFFFFF_FFFFFF]

/-- Where the characters written from right to left begin and end. -/
def rightToLeftRows : List Nat :=
  [0x0005BE_0005BF_0005C0_0005C1_0005C3_0005C4_0005C6_0005C7_0005D0_000606_000608_000609,
   0x00060B_00060C_00060D_00060E_00061B_00064B_00066D_000670_000671_0006D6_0006E5_0006E7,
   0x0006EE_0006F0_0006FA_000711_000712_000730_00074D_0007A6_0007B1_0007EB_0007F4_0007F6,
   0x0007FA_0007FD_0007FE_000816_00081A_00081B_000824_000825_000828_000829_000830_000859,
   0x00085E_000898_0008A0_0008CA_00FBB2_00FD3E_00FE73_010000_010800_01091F_010920_010A01,
   0x010A10_010A38_010A40_010AE5_010AEB_010B39_010B40_010D24_010D40_010E60_010E80_010EAB,
   0x010EAD_010EFD_010F00_010F46_010F51_010F82_010F86_011000_01E800_01E8D0_01E922_01E944,
   0x01E94B_01EEF0_FFFFFF_FFFFFF_FFFFFF_FFFFFF_FFFFFF_FFFFFF_FFFFFF_FFFFFF_FFFFFF_FFFFFF]

def arabicDigitRows : List Nat :=
  [0x000660_00066A_00066B_00066D_010D30_010D40_010E60_010E80_FFFFFF_FFFFFF_FFFFFF_FFFFFF]

/-- Where the European numbers beyond the seven-bit range begin and end. -/
def europeanDigitRows : List Nat :=
  [0x0006F0_0006FA_0102E1_010300_FFFFFF_FFFFFF_FFFFFF_FFFFFF_FFFFFF_FFFFFF_FFFFFF_FFFFFF]

def nonspacingRows : List Nat :=
  [0x000300_000371_000483_00048B_000591_0005BE_0005BF_0005C0_0005C1_0005C3_0005C4_0005C6,
   0x0005C7_0005D0_000610_00061B_00064B_000660_000670_000671_0006D6_0006DE_0006DF_0006E5,
   0x0006E7_0006E9_0006EA_0006EE_000711_000712_000730_00074D_0007A6_0007B1_0007EB_0007F4,
   0x0007FD_0007FE_000816_00081A_00081B_000824_000825_000828_000829_000830_000859_00085E,
   0x000898_0008A0_0008CA_000903_00093A_00093B_00093C_00093D_000941_000949_00094D_00094E,
   0x000951_000960_000962_000964_000981_000982_0009BC_0009BD_0009C1_0009C7_0009CD_0009CE,
   0x0009E2_0009E6_0009FE_000A03_000A3C_000A3E_000A41_000A5C_000A70_000A72_000A75_000A76,
   0x000A81_000A83_000ABC_000ABD_000AC1_000AC9_000ACD_000AD0_000AE2_000AE6_000AFA_000B02,
   0x000B3C_000B3D_000B3F_000B40_000B41_000B47_000B4D_000B57_000B62_000B66_000B82_000B83,
   0x000BC0_000BC1_000BCD_000BD0_000C00_000C01_000C04_000C05_000C3C_000C3D_000C3E_000C41,
   0x000C46_000C58_000C62_000C66_000C81_000C82_000CBC_000CBD_000CCC_000CD5_000CE2_000CE6,
   0x000D00_000D02_000D3B_000D3D_000D41_000D46_000D4D_000D4E_000D62_000D66_000D81_000D82,
   0x000DCA_000DCF_000DD2_000DD8_000E31_000E32_000E34_000E3F_000E47_000E4F_000EB1_000EB2,
   0x000EB4_000EBD_000EC8_000ED0_000F18_000F1A_000F35_000F36_000F37_000F38_000F39_000F3A,
   0x000F71_000F7F_000F80_000F85_000F86_000F88_000F8D_000FBE_000FC6_000FC7_00102D_001031,
   0x001032_001038_001039_00103B_00103D_00103F_001058_00105A_00105E_001061_001071_001075,
   0x001082_001083_001085_001087_00108D_00108E_00109D_00109E_00135D_001360_001712_001715,
   0x001732_001734_001752_001760_001772_001780_0017B7_0017BE_0017C6_0017C7_0017C9_0017D4,
   0x0017DD_0017E0_001885_001887_0018A9_0018AA_001920_001923_001927_001929_001932_001933,
   0x001939_001940_001A17_001A19_001A1B_001A1E_001A56_001A57_001A58_001A61_001A62_001A63,
   0x001A65_001A6D_001A73_001A80_001AB0_001B04_001B34_001B35_001B36_001B3B_001B3C_001B3D,
   0x001B42_001B43_001B6B_001B74_001B80_001B82_001BA2_001BA6_001BA8_001BAA_001BAB_001BAE,
   0x001BE6_001BE7_001BE8_001BEA_001BED_001BEE_001BEF_001BF2_001C2C_001C34_001C36_001C3B,
   0x001CD0_001CD3_001CD4_001CE1_001CE2_001CE9_001CED_001CEE_001CF4_001CF5_001CF8_001CFA,
   0x001DC0_001E01_0020D0_002104_002CEF_002CF3_002D7F_002D80_002DE0_002E00_00302A_00302E,
   0x003099_00309D_00A66F_00A673_00A674_00A67E_00A69E_00A6A0_00A6F0_00A6F2_00A802_00A803,
   0x00A806_00A807_00A80B_00A80C_00A825_00A827_00A82C_00A830_00A8C4_00A8CE_00A8E0_00A8F2,
   0x00A8FF_00A900_00A926_00A92E_00A947_00A952_00A980_00A983_00A9B3_00A9B4_00A9B6_00A9BA,
   0x00A9BC_00A9BE_00A9E5_00A9E6_00AA29_00AA2F_00AA31_00AA33_00AA35_00AA40_00AA43_00AA44,
   0x00AA4C_00AA4D_00AA7C_00AA7D_00AAB0_00AAB1_00AAB2_00AAB5_00AAB7_00AAB9_00AABE_00AAC0,
   0x00AAC1_00AAC2_00AAEC_00AAEE_00AAF6_00AB01_00ABE5_00ABE6_00ABE8_00ABE9_00ABED_00ABF0,
   0x00FB1E_00FBB2_00FE20_00FE45_0101FD_010280_0102E0_0102E1_010376_010380_010A01_010A10,
   0x010A38_010A40_010AE5_010AEB_010D24_010D30_010EAB_010EAD_010EFD_010F00_010F46_010F51,
   0x010F82_010F86_011001_011002_011038_011047_011070_011071_011073_011075_01107F_011082,
   0x0110B3_0110B7_0110B9_0110BB_0110C2_0110D0_011100_011103_011127_01112C_01112D_011136,
   0x011173_011174_011180_011182_0111B6_0111BF_0111C9_0111CD_0111CF_0111D0_01122F_011232,
   0x011234_011235_011236_011238_01123E_01123F_011241_011280_0112DF_0112E0_0112E3_0112F0,
   0x011300_011302_01133B_01133D_011340_011341_011366_011380_011438_011440_011442_011445,
   0x011446_011447_01145E_01145F_0114B3_0114B9_0114BA_0114BB_0114BF_0114C1_0114C2_0114C4,
   0x0115B2_0115B8_0115BC_0115BE_0115BF_0115C1_0115DC_011600_011633_01163B_01163D_01163E,
   0x01163F_011641_0116AB_0116AC_0116AD_0116AE_0116B0_0116B6_0116B7_0116B8_01171D_011720,
   0x011722_011726_011727_011730_01182F_011838_011839_01183B_01193B_01193D_01193E_01193F,
   0x011943_011944_0119D4_0119DC_0119E0_0119E1_011A01_011A07_011A09_011A0B_011A33_011A39,
   0x011A3B_011A3F_011A47_011A50_011A51_011A57_011A59_011A5C_011A8A_011A97_011A98_011A9A,
   0x011C30_011C3E_011C92_011CA9_011CAA_011CB1_011CB2_011CB4_011CB5_011D00_011D31_011D46,
   0x011D47_011D50_011D90_011D93_011D95_011D96_011D97_011D98_011EF3_011EF5_011F00_011F02,
   0x011F36_011F3E_011F40_011F41_011F42_011F43_013440_013441_013447_013460_016AF0_016AF5,
   0x016B30_016B37_016F4F_016F50_016F8F_016F93_016FE4_016FF0_01BC9D_01BC9F_01CF00_01CF50,
   0x01D167_01D16A_01D17B_01D183_01D185_01D18C_01D1AA_01D1AE_01D242_01D245_01DA00_01DA37,
   0x01DA3B_01DA6D_01DA75_01DA76_01DA84_01DA85_01DA9B_01DF00_01E000_01E100_01E130_01E137,
   0x01E2AE_01E2C0_01E2EC_01E2F0_01E4EC_01E4F0_01E8D0_01E922_01E944_01E94B_FFFFFF_FFFFFF]

def neutralRows : List Nat :=
  [0x0000A1_0000DF_0000F7_0000F8_0002B9_0002BB_0002C2_0002D0_0002D2_0002EE_0002EF_000300,
   0x000375_000377_0003F6_0003F8_00058A_000591_000606_000608_000609_00060B_00060C_00060D,
   0x00060E_000610_00066A_00066B_0006DE_0006DF_0006E9_0006EA_0007F6_0007FA_0009F2_0009F4,
   0x0009FB_0009FC_000AF1_000AF9_000BF3_000C00_000C78_000C7F_000E3F_000E40_000F3A_000F3E,
   0x001390_0013A0_001400_001401_00169B_0016A0_0017DB_0017DC_0017F0_001810_001940_001946,
   0x0019DE_001A00_00200C_0020D0_002104_00214E_00218A_002336_00237B_002395_002396_002427,
   0x002440_0026AC_0026AD_002800_002900_002C30_002CE5_002CEC_002CF9_002D00_002E00_003005,
   0x003008_003021_003030_003031_003037_00303B_00303D_003041_0030A0_0030A1_0030FB_0030FC,
   0x0031C0_0031E4_004DC0_004E00_00A490_00A4D0_00A60D_00A610_00A673_00A674_00A67E_00A681,
   0x00A700_00A723_00A788_00A789_00A828_00A82C_00A838_00A840_00A874_00A880_00AB6A_00ABC0,
   0x00FD3E_00FE20_00FE45_00FE73_010101_010102_010140_01018D_010190_0101D0_01091F_010920,
   0x010B39_010B40_011052_011066_011660_011680_011FD5_011FFF_016FE2_016FE3_01D1E9_01D242,
   0x01D245_01D2C0_01D300_01D360_01E2FF_01E4D0_01EEF0_01F150_01F16D_01F170_01F1AD_01F1E6,
   0x01F260_01F8B2_01F900_01FA89_01FA90_01FABE_01FABF_01FAC6_01FACE_01FADC_01FAE0_01FAE9,
   0x01FAF0_01FBCB_FFFFFF_FFFFFF_FFFFFF_FFFFFF_FFFFFF_FFFFFF_FFFFFF_FFFFFF_FFFFFF_FFFFFF]

def joinsNextRows : List Nat :=
  [0x000620_000621_000626_000627_000628_000629_00062A_00062F_000633_000640_000641_000648,
   0x000649_00064B_00066E_000670_000679_000688_00069A_0006C0_0006C1_0006C3_0006CC_0006CD,
   0x0006CE_0006CF_0006D0_0006D2_0006FA_0006FD_0006FF_000700_000712_000715_00071A_00071E,
   0x00071F_000728_000729_00072A_00072B_00072C_00072D_00072F_00074E_000759_00075C_00076B,
   0x00076D_000771_000772_000773_000775_000778_00077A_000780_0007CA_0007EB_000841_000846,
   0x000848_000849_00084A_000854_000855_000856_000860_000861_000862_000866_000868_000869,
   0x000886_000887_000889_00088E_0008A0_0008AA_0008AF_0008B1_0008B3_0008B9_0008BA_0008C9,
   0x001807_001808_001820_001880_001887_0018A9_0018AA_0018B0_00A840_00A873_010AC0_010AC5,
   0x010ACD_010ACE_010AD3_010ADD_010ADE_010AE1_010AEB_010AEF_010B80_010B81_010B82_010B83,
   0x010B86_010B89_010B8A_010B8C_010B8D_010B8E_010B90_010B91_010BAD_010BAF_010D00_010D22,
   0x010D23_010D24_010F30_010F33_010F34_010F45_010F51_010F54_010F70_010F74_010F76_010F82,
   0x010FB0_010FB1_010FB2_010FB4_010FB8_010FB9_010FBB_010FBD_010FBE_010FC0_010FC1_010FC2,
   0x010FC4_010FC5_010FCA_010FE0_01E922_01E944_FFFFFF_FFFFFF_FFFFFF_FFFFFF_FFFFFF_FFFFFF]

def joinsPreviousRows : List Nat :=
  [0x000620_000621_000622_000640_000641_00064B_00066E_000670_000671_000674_000679_0006D4,
   0x0006D5_0006D6_0006EE_0006F0_0006FA_0006FD_0006FF_000700_000710_000711_000712_000730,
   0x00074D_000780_0007CA_0007EB_000840_000859_000860_000861_000862_000866_000867_000883,
   0x000886_000887_000889_000897_0008A0_0008AD_0008AE_0008C9_001807_001808_001820_001880,
   0x001887_0018A9_0018AA_0018B0_00A840_00A872_010AC0_010AC6_010AC7_010AC8_010AC9_010ACB,
   0x010ACE_010AD7_010AD8_010AE2_010AE4_010AE5_010AEB_010AF0_010B80_010B99_010BA9_010BAF,
   0x010D01_010D24_010F30_010F45_010F51_010F55_010F70_010F82_010FB0_010FB1_010FB2_010FB7,
   0x010FB8_010FC0_010FC1_010FC5_010FC9_010FCB_01E922_01E944_FFFFFF_FFFFFF_FFFFFF_FFFFFF]

def transparentRows : List Nat :=
  [0x000300_000371_000483_00048B_000591_0005BE_0005BF_0005C0_0005C1_0005C3_0005C4_0005C6,
   0x0005C7_0005D0_000610_00061B_00064B_000660_000670_000671_0006D6_0006DE_0006DF_0006E5,
   0x0006E7_0006E9_0006EA_0006EE_000711_000712_000730_00074D_0007A6_0007B1_0007EB_0007F4,
   0x0007FD_0007FE_000816_00081A_00081B_000824_000825_000828_000829_000830_000859_00085E,
   0x000898_0008A0_0008CA_000903_00093A_00093B_00093C_00093D_000941_000949_00094D_00094E,
   0x000951_000960_000962_000964_000981_000982_0009BC_0009BD_0009C1_0009C7_0009CD_0009CE,
   0x0009E2_0009E6_0009FE_000A03_000A3C_000A3E_000A41_000A5C_000A70_000A72_000A75_000A76,
   0x000A81_000A83_000ABC_000ABD_000AC1_000AC9_000ACD_000AD0_000AE2_000AE6_000AFA_000B02,
   0x000B3C_000B3D_000B3F_000B40_000B41_000B47_000B4D_000B57_000B62_000B66_000B82_000B83,
   0x000BC0_000BC1_000BCD_000BD0_000C00_000C01_000C04_000C05_000C3C_000C3D_000C3E_000C41,
   0x000C46_000C58_000C62_000C66_000C81_000C82_000CBC_000CBD_000CBF_000CC0_000CC6_000CC7,
   0x000CCC_000CD5_000CE2_000CE6_000D00_000D02_000D3B_000D3D_000D41_000D46_000D4D_000D4E,
   0x000D62_000D66_000D81_000D82_000DCA_000DCF_000DD2_000DD8_000E31_000E32_000E34_000E3F,
   0x000E47_000E4F_000EB1_000EB2_000EB4_000EBD_000EC8_000ED0_000F18_000F1A_000F35_000F36,
   0x000F37_000F38_000F39_000F3A_000F71_000F7F_000F80_000F85_000F86_000F88_000F8D_000FBE,
   0x000FC6_000FC7_00102D_001031_001032_001038_001039_00103B_00103D_00103F_001058_00105A,
   0x00105E_001061_001071_001075_001082_001083_001085_001087_00108D_00108E_00109D_00109E,
   0x00135D_001360_001712_001715_001732_001734_001752_001760_001772_001780_0017B7_0017BE,
   0x0017C6_0017C7_0017C9_0017D4_0017DD_0017E0_001885_001887_0018A9_0018AA_001920_001923,
   0x001927_001929_001932_001933_001939_001940_001A17_001A19_001A1B_001A1E_001A56_001A57,
   0x001A58_001A61_001A62_001A63_001A65_001A6D_001A73_001A80_001AB0_001B04_001B34_001B35,
   0x001B36_001B3B_001B3C_001B3D_001B42_001B43_001B6B_001B74_001B80_001B82_001BA2_001BA6,
   0x001BA8_001BAA_001BAB_001BAE_001BE6_001BE7_001BE8_001BEA_001BED_001BEE_001BEF_001BF2,
   0x001C2C_001C34_001C36_001C3B_001CD0_001CD3_001CD4_001CE1_001CE2_001CE9_001CED_001CEE,
   0x001CF4_001CF5_001CF8_001CFA_001DC0_001E01_0020D0_002104_002CEF_002CF3_002D7F_002D80,
   0x002DE0_002E00_00302A_00302E_003099_00309D_00A66F_00A673_00A674_00A67E_00A69E_00A6A0,
   0x00A6F0_00A6F2_00A802_00A803_00A806_00A807_00A80B_00A80C_00A825_00A827_00A82C_00A830,
   0x00A8C4_00A8CE_00A8E0_00A8F2_00A8FF_00A900_00A926_00A92E_00A947_00A952_00A980_00A983,
   0x00A9B3_00A9B4_00A9B6_00A9BA_00A9BC_00A9BE_00A9E5_00A9E6_00AA29_00AA2F_00AA31_00AA33,
   0x00AA35_00AA40_00AA43_00AA44_00AA4C_00AA4D_00AA7C_00AA7D_00AAB0_00AAB1_00AAB2_00AAB5,
   0x00AAB7_00AAB9_00AABE_00AAC0_00AAC1_00AAC2_00AAEC_00AAEE_00AAF6_00AB01_00ABE5_00ABE6,
   0x00ABE8_00ABE9_00ABED_00ABF0_00FB1E_00FBB2_00FE20_00FE45_0101FD_010280_0102E0_0102E1,
   0x010376_010380_010A01_010A10_010A38_010A40_010AE5_010AEB_010D24_010D30_010EAB_010EAD,
   0x010EFD_010F00_010F46_010F51_010F82_010F86_011001_011002_011038_011047_011070_011071,
   0x011073_011075_01107F_011082_0110B3_0110B7_0110B9_0110BB_0110C2_0110D0_011100_011103,
   0x011127_01112C_01112D_011136_011173_011174_011180_011182_0111B6_0111BF_0111C9_0111CD,
   0x0111CF_0111D0_01122F_011232_011234_011235_011236_011238_01123E_01123F_011241_011280,
   0x0112DF_0112E0_0112E3_0112F0_011300_011302_01133B_01133D_011340_011341_011366_011380,
   0x011438_011440_011442_011445_011446_011447_01145E_01145F_0114B3_0114B9_0114BA_0114BB,
   0x0114BF_0114C1_0114C2_0114C4_0115B2_0115B8_0115BC_0115BE_0115BF_0115C1_0115DC_011600,
   0x011633_01163B_01163D_01163E_01163F_011641_0116AB_0116AC_0116AD_0116AE_0116B0_0116B6,
   0x0116B7_0116B8_01171D_011720_011722_011726_011727_011730_01182F_011838_011839_01183B,
   0x01193B_01193D_01193E_01193F_011943_011944_0119D4_0119DC_0119E0_0119E1_011A01_011A0B,
   0x011A33_011A39_011A3B_011A3F_011A47_011A50_011A51_011A57_011A59_011A5C_011A8A_011A97,
   0x011A98_011A9A_011C30_011C3E_011C3F_011C40_011C92_011CA9_011CAA_011CB1_011CB2_011CB4,
   0x011CB5_011D00_011D31_011D46_011D47_011D50_011D90_011D93_011D95_011D96_011D97_011D98,
   0x011EF3_011EF5_011F00_011F02_011F36_011F3E_011F40_011F41_011F42_011F43_013440_013441,
   0x013447_013460_016AF0_016AF5_016B30_016B37_016F4F_016F50_016F8F_016F93_016FE4_016FF0,
   0x01BC9D_01BC9F_01CF00_01CF50_01D167_01D16A_01D17B_01D183_01D185_01D18C_01D1AA_01D1AE,
   0x01D242_01D245_01DA00_01DA37_01DA3B_01DA6D_01DA75_01DA76_01DA84_01DA85_01DA9B_01DF00,
   0x01E000_01E100_01E130_01E137_01E2AE_01E2C0_01E2EC_01E2F0_01E4EC_01E4F0_01E8D0_01E922,
   0x01E944_01E950_FFFFFF_FFFFFF_FFFFFF_FFFFFF_FFFFFF_FFFFFF_FFFFFF_FFFFFF_FFFFFF_FFFFFF]

/-- The forms that are not just lower case and compatibility composition. -/
def domainForms : CodeMap := .ofRows domainFormRows

def ignored : CodeSet := .ofRows ignoredRows

def forbidden : CodeSet := .ofRows forbiddenRows

def marks : CodeSet := .ofRows markRows

/-- The letters of scripts written from right to left. -/
def rightToLeft : CodeSet := .ofRows rightToLeftRows

def arabicDigits : CodeSet := .ofRows arabicDigitRows

/-- The European numbers beyond the seven-bit range. -/
def europeanDigits : CodeSet := .ofRows europeanDigitRows

def nonspacing : CodeSet := .ofRows nonspacingRows

/-- The characters without a direction of their own, such as signs and separators. -/
def neutral : CodeSet := .ofRows neutralRows

def joinsNext : CodeSet := .ofRows joinsNextRows

def joinsPrevious : CodeSet := .ofRows joinsPreviousRows

def transparent : CodeSet := .ofRows transparentRows

end Retrieval.Url.DomainName
