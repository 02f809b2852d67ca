/-!
# The runs of the case mappings

A run of a mapping is four numbers: the first code point, how many there are, the distance between
two of them, and what is added to each. The exceptions are a code point, the number of code points
that it becomes, and these.
-/

namespace DevConsole.Unicode

/-- The mapping to capital letters, where one letter becomes one. -/
def capitalRuns : String :=
  String.join
    ["97 26 1 -32 181 1 1 743 224 23 1 -32 248 7 1 -32 255 1 1 121 257 24 2 -1 305 1 1 -232 307 ",
     "3 2 -1 314 8 2 -1 331 23 2 -1 378 3 2 -1 383 1 1 -300 384 1 1 195 387 2 2 -1 392 1 1 -1 ",
     "396 1 1 -1 402 1 1 -1 405 1 1 97 409 1 1 -1 410 1 1 163 411 1 1 42561 414 1 1 130 417 3 2 ",
     "-1 424 1 1 -1 429 1 1 -1 432 1 1 -1 436 2 2 -1 441 1 1 -1 445 1 1 -1 447 1 1 56 453 1 1 ",
     "-1 454 1 1 -2 456 1 1 -1 457 1 1 -2 459 1 1 -1 460 1 1 -2 462 8 2 -1 477 1 1 -79 479 9 2 ",
     "-1 498 1 1 -1 499 1 1 -2 501 1 1 -1 505 20 2 -1 547 9 2 -1 572 1 1 -1 575 2 1 10815 578 1 ",
     "1 -1 583 5 2 -1 592 1 1 10783 593 1 1 10780 594 1 1 10782 595 1 1 -210 596 1 1 -206 598 2 ",
     "1 -205 601 1 1 -202 603 1 1 -203 604 1 1 42319 608 1 1 -205 609 1 1 42315 611 1 1 -207 ",
     "612 1 1 42343 613 1 1 42280 614 1 1 42308 616 1 1 -209 617 1 1 -211 618 1 1 42308 619 1 1 ",
     "10743 620 1 1 42305 623 1 1 -211 625 1 1 10749 626 1 1 -213 629 1 1 -214 637 1 1 10727 ",
     "640 1 1 -218 642 1 1 42307 643 1 1 -218 647 1 1 42282 648 1 1 -218 649 1 1 -69 650 2 1 ",
     "-217 652 1 1 -71 658 1 1 -219 669 1 1 42261 670 1 1 42258 837 1 1 84 881 2 2 -1 887 1 1 ",
     "-1 891 3 1 130 940 1 1 -38 941 3 1 -37 945 17 1 -32 962 1 1 -31 963 9 1 -32 972 1 1 -64 ",
     "973 2 1 -63 976 1 1 -62 977 1 1 -57 981 1 1 -47 982 1 1 -54 983 1 1 -8 985 12 2 -1 1008 1 ",
     "1 -86 1009 1 1 -80 1010 1 1 7 1011 1 1 -116 1013 1 1 -96 1016 1 1 -1 1019 1 1 -1 1072 32 ",
     "1 -32 1104 16 1 -80 1121 17 2 -1 1163 27 2 -1 1218 7 2 -1 1231 1 1 -15 1233 48 2 -1 1377 ",
     "38 1 -48 4304 43 1 3008 4349 3 1 3008 5112 6 1 -8 7296 1 1 -6254 7297 1 1 -6253 7298 1 1 ",
     "-6244 7299 2 1 -6242 7301 1 1 -6243 7302 1 1 -6236 7303 1 1 -6181 7304 1 1 35266 7306 1 1 ",
     "-1 7545 1 1 35332 7549 1 1 3814 7566 1 1 35384 7681 75 2 -1 7835 1 1 -59 7841 48 2 -1 ",
     "7936 8 1 8 7952 6 1 8 7968 8 1 8 7984 8 1 8 8000 6 1 8 8017 4 2 8 8032 8 1 8 8048 2 1 74 ",
     "8050 4 1 86 8054 2 1 100 8056 2 1 128 8058 2 1 112 8060 2 1 126 8112 2 1 8 8126 1 1 -7205 ",
     "8144 2 1 8 8160 2 1 8 8165 1 1 7 8526 1 1 -28 8560 16 1 -16 8580 1 1 -1 9424 26 1 -26 ",
     "11312 48 1 -48 11361 1 1 -1 11365 1 1 -10795 11366 1 1 -10792 11368 3 2 -1 11379 1 1 -1 ",
     "11382 1 1 -1 11393 50 2 -1 11500 2 2 -1 11507 1 1 -1 11520 38 1 -7264 11559 1 1 -7264 ",
     "11565 1 1 -7264 42561 23 2 -1 42625 14 2 -1 42787 7 2 -1 42803 31 2 -1 42874 2 2 -1 42879 ",
     "5 2 -1 42892 1 1 -1 42897 2 2 -1 42900 1 1 48 42903 10 2 -1 42933 8 2 -1 42952 2 2 -1 ",
     "42957 8 2 -1 42998 1 1 -1 43859 1 1 -928 43888 80 1 -38864 65345 26 1 -32 66600 40 1 -40 ",
     "66776 36 1 -40 66967 19 2 -39 66968 5 2 -39 66980 7 2 -39 66996 3 2 -39 67004 1 1 -39 ",
     "68800 51 1 -64 68976 22 1 -32 71872 32 1 -32 93792 32 1 -32 93883 25 1 -27 125218 34 1 -34"]

/-- Letters whose capital form is several letters. -/
def capitalExceptions : String :=
  String.join
    ["223 2 83 83 329 2 700 78 496 2 74 780 912 3 921 776 769 944 3 933 776 769 1415 2 1333 ",
     "1362 7830 2 72 817 7831 2 84 776 7832 2 87 778 7833 2 89 778 7834 2 65 702 8016 2 933 787 ",
     "8018 3 933 787 768 8020 3 933 787 769 8022 3 933 787 834 8064 2 7944 921 8065 2 7945 921 ",
     "8066 2 7946 921 8067 2 7947 921 8068 2 7948 921 8069 2 7949 921 8070 2 7950 921 8071 2 ",
     "7951 921 8072 2 7944 921 8073 2 7945 921 8074 2 7946 921 8075 2 7947 921 8076 2 7948 921 ",
     "8077 2 7949 921 8078 2 7950 921 8079 2 7951 921 8080 2 7976 921 8081 2 7977 921 8082 2 ",
     "7978 921 8083 2 7979 921 8084 2 7980 921 8085 2 7981 921 8086 2 7982 921 8087 2 7983 921 ",
     "8088 2 7976 921 8089 2 7977 921 8090 2 7978 921 8091 2 7979 921 8092 2 7980 921 8093 2 ",
     "7981 921 8094 2 7982 921 8095 2 7983 921 8096 2 8040 921 8097 2 8041 921 8098 2 8042 921 ",
     "8099 2 8043 921 8100 2 8044 921 8101 2 8045 921 8102 2 8046 921 8103 2 8047 921 8104 2 ",
     "8040 921 8105 2 8041 921 8106 2 8042 921 8107 2 8043 921 8108 2 8044 921 8109 2 8045 921 ",
     "8110 2 8046 921 8111 2 8047 921 8114 2 8122 921 8115 2 913 921 8116 2 902 921 8118 2 913 ",
     "834 8119 3 913 834 921 8124 2 913 921 8130 2 8138 921 8131 2 919 921 8132 2 905 921 8134 ",
     "2 919 834 8135 3 919 834 921 8140 2 919 921 8146 3 921 776 768 8147 3 921 776 769 8150 2 ",
     "921 834 8151 3 921 776 834 8162 3 933 776 768 8163 3 933 776 769 8164 2 929 787 8166 2 ",
     "933 834 8167 3 933 776 834 8178 2 8186 921 8179 2 937 921 8180 2 911 921 8182 2 937 834 ",
     "8183 3 937 834 921 8188 2 937 921 64256 2 70 70 64257 2 70 73 64258 2 70 76 64259 3 70 70 ",
     "73 64260 3 70 70 76 64261 2 83 84 64262 2 83 84 64275 2 1348 1350 64276 2 1348 1333 64277 ",
     "2 1348 1339 64278 2 1358 1350 64279 2 1348 1341"]

/-- The pairs of characters that differ in case only: the runs lead from the one to the other. -/
def casePairRuns : String :=
  String.join
    ["65 10 1 32 76 8 2 32 77 3 2 32 85 3 2 32 192 16 2 32 193 2 2 32 199 8 2 32 217 3 2 32 223 ",
     "1 1 7615 255 1 1 121 256 24 2 1 306 3 2 1 313 8 2 1 330 23 2 1 377 3 2 1 384 1 1 195 385 ",
     "1 1 210 386 2 2 1 390 1 1 206 391 1 1 1 393 2 1 205 395 1 1 1 398 1 1 79 399 1 1 202 400 ",
     "1 1 203 401 1 1 1 403 1 1 205 404 1 1 207 405 1 1 97 406 1 1 211 407 1 1 209 408 1 1 1 ",
     "410 1 1 163 411 1 1 42561 412 1 1 211 413 1 1 213 414 1 1 130 415 1 1 214 416 3 2 1 422 1 ",
     "1 218 423 1 1 1 425 1 1 218 428 1 1 1 430 1 1 218 431 1 1 1 433 2 1 217 435 2 2 1 439 1 1 ",
     "219 440 1 1 1 444 1 1 1 447 1 1 56 461 8 2 1 478 9 2 1 500 1 1 1 504 20 2 1 546 9 2 1 570 ",
     "1 1 10795 571 1 1 1 574 1 1 10792 575 2 1 10815 577 1 1 1 580 1 1 69 581 1 1 71 582 5 2 1 ",
     "592 1 1 10783 593 1 1 10780 594 1 1 10782 604 1 1 42319 609 1 1 42315 612 1 1 42343 613 1 ",
     "1 42280 614 1 1 42308 618 1 1 42308 619 1 1 10743 620 1 1 42305 625 1 1 10749 637 1 1 ",
     "10727 642 1 1 42307 647 1 1 42282 669 1 1 42261 670 1 1 42258 880 2 2 1 886 1 1 1 891 3 1 ",
     "130 895 1 1 116 902 1 1 38 904 3 1 37 908 1 1 64 910 2 1 63 912 1 1 7235 913 2 2 32 916 2 ",
     "2 32 919 1 1 32 923 3 2 32 926 1 1 32 932 2 1 32 935 2 1 32 938 2 1 32 944 1 1 7219 975 1 ",
     "1 8 984 12 2 1 1010 1 1 7 1015 1 1 1 1018 1 1 1 1024 16 1 80 1040 2 1 32 1043 7 2 32 1046 ",
     "4 2 32 1056 1 1 32 1059 7 1 32 1067 5 1 32 1120 1 1 1 1124 15 2 1 1162 27 2 1 1216 1 1 15 ",
     "1217 7 2 1 1232 48 2 1 1329 38 1 48 4256 38 1 7264 4295 1 1 7264 4301 1 1 7264 4304 43 1 ",
     "3008 4349 3 1 3008 5024 80 1 38864 5104 6 1 8 7305 1 1 1 7545 1 1 35332 7549 1 1 3814 ",
     "7566 1 1 35384 7680 48 2 1 7778 26 2 1 7840 48 2 1 7936 8 1 8 7952 6 1 8 7968 8 1 8 7984 ",
     "8 1 8 8000 6 1 8 8017 4 2 8 8032 8 1 8 8048 2 1 74 8050 4 1 86 8054 2 1 100 8056 2 1 128 ",
     "8058 2 1 112 8060 2 1 126 8064 8 1 8 8080 8 1 8 8096 8 1 8 8112 2 1 8 8115 1 1 9 8131 1 1 ",
     "9 8144 2 1 8 8160 2 1 8 8165 1 1 7 8179 1 1 9 8498 1 1 28 8544 16 1 16 8579 1 1 1 9398 26 ",
     "1 26 11264 48 1 48 11360 1 1 1 11367 3 2 1 11378 1 1 1 11381 1 1 1 11392 50 2 1 11499 2 2 ",
     "1 11506 1 1 1 42560 5 2 1 42572 17 2 1 42624 14 2 1 42786 7 2 1 42802 31 2 1 42873 2 2 1 ",
     "42878 5 2 1 42891 1 1 1 42896 2 2 1 42900 1 1 48 42902 10 2 1 42931 1 1 928 42932 8 2 1 ",
     "42951 2 2 1 42956 1 1 1 42960 1 1 1 42966 3 2 1 42997 1 1 1 64261 1 1 1 65313 26 1 32 ",
     "66560 40 1 40 66736 36 1 40 66928 19 2 39 66929 5 2 39 66941 7 2 39 66957 3 2 39 66965 1 ",
     "1 39 68736 51 1 64 68944 22 1 32 71840 32 1 32 93760 32 1 32 125184 34 1 34"]

/-- More than two characters that differ in case only: their number, and the characters. -/
def caseOrbits : String :=
  String.join
    ["3 75 107 8490 3 83 115 383 3 181 924 956 3 197 229 8491 3 452 453 454 3 455 456 457 3 458 ",
     "459 460 3 497 498 499 4 837 921 953 8126 3 914 946 976 3 917 949 1013 4 920 952 977 1012 ",
     "3 922 954 1008 3 928 960 982 3 929 961 1009 3 931 962 963 3 934 966 981 3 937 969 8486 3 ",
     "1042 1074 7296 3 1044 1076 7297 3 1054 1086 7298 3 1057 1089 7299 4 1058 1090 7300 7301 3 ",
     "1066 1098 7302 3 1122 1123 7303 3 7304 42570 42571 3 7776 7777 7835"]

end DevConsole.Unicode
